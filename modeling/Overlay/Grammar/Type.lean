import Overlay.Grammar.Bound
import Overlay.Text.Quoted

/-!
Rules for types.
-/

namespace Overlay.Grammar

open Reader Cursor

variable (g : Grammar)

/-- What may open a type, as a message lists it. -/
def typeOpenings : List String :=
  ["`for`", "parentheses", "`fn`", "`unsafe`", "`extern`", "identifier", "`::`", "`<`", "`dyn`",
   "square brackets", "`*`", "`&`", "`!`", "`impl`", "`_`", "lifetime"]

/-- What may follow a binder in front of a type, as a message lists it. -/
def boundTypeOpenings : List String :=
  ["identifier", "`fn`", "`unsafe`", "`extern`", "`super`", "`self`", "`Self`", "`crate`"]

/-- Is there a name, or a keyword that may open a path? -/
def startsPathName : Test := fun trees =>
  hasName trees || hasWord "super" trees || hasWord "self" trees || hasWord "Self" trees
    || hasWord "crate" trees

/-- Does a function pointer begin here? -/
def startsFunction : Test := fun trees =>
  hasWord "fn" trees || hasWord "unsafe" trees || hasWord "extern" trees

/-! ## Types in invisible groups -/

/-- More segments of a path type. -/
def extendPath : Ty → Reader (Option Ty)
  | .path (.mk leading segments) => do
    return some (.path (.mk leading (← g.moreSegments false segments)))
  | .qualified self trait rest => do
    return some (.qualified self trait (← g.moreSegments false rest))
  | _ => return none

/-- The last of some segments with arguments, if it has none yet. -/
def withArgs? (segments : List Segment) (args : Args) : Option (List Segment) :=
  match segments.getLast? with
  | some (.mk name .none) => some (segments.dropLast ++ [.mk name args])
  | _ => none

/-- Can arguments be attached to this type? -/
def takesArgs : Ty → Bool
  | .path (.mk _ segments) => (withArgs? segments .none).isSome
  | .qualified _ _ rest => (withArgs? rest .none).isSome
  | _ => false

/-- A path type with arguments at its last segment. -/
def attachArgs (args : Args) : Ty → Ty
  | .path (.mk leading segments) => .path (.mk leading ((withArgs? segments args).getD segments))
  | .qualified self trait rest => .qualified self trait ((withArgs? rest args).getD rest)
  | ty => ty

/-- A type that begins with an invisible group.  The whole content is a type; a path that follows
extends it. -/
def groupedType (groupArgs : Bool) : Reader Ty := do
  let inner ← within .invisible (g.ty true true)
  if ← peek fun trees => hasSign "::" trees && third hasAnyIdent trees then
    match ← g.extendPath inner with
    | some ty => return ty
    | none =>
      let path ← g.path false
      return .qualified inner none path.segments
  let args ← peek fun trees =>
    (groupArgs && hasSign "<" trees) || (hasSign "::" trees && third (hasSign "<") trees)
  if args && takesArgs inner then
    let ty := attachArgs (← g.angledArgs) inner
    return (← g.extendPath ty).getD ty
  return .group inner

/-! ## Bare trait objects and types in parentheses -/

/-- A trait object that begins with a lifetime.  A lifetime alone is no type, so its further bounds
belong to it also where a type must not go on behind a `+`. -/
def lifetimeType : Reader Ty := do
  let (bounds, trailing) ← g.bounds true false false
  if !hasTrait bounds then refuse "at least one trait is required for an object type"
  return .object false bounds trailing

/-- Further bounds behind a first one. -/
def plusBounds (first : Bound) : Reader Ty := do
  let bounds ← repeatFrom [first] fun bounds => do
    if ← optSign "+" then return .inl (bounds ++ [← g.bound false false])
    return .inr bounds
  return .object false bounds false

/-- The type in parentheses, as the first bound of a trait object. -/
def parenBound? : Ty → Option Bound
  | .path path => some (.trait true false [] path)
  | .object false [.trait _ relaxed binder path] false => some (.trait true relaxed binder path)
  | .object false [bound] false => some bound
  | _ => none

/-- What parentheses hold. -/
inductive Parenthesised where
  | done (ty : Ty)
  /-- `?Trait`: the parentheses belong to a bound. -/
  | relaxed (bound : Bound)
  | single (ty : Ty)

/-- Reads the content of parentheses in a type. -/
def parenContent : Reader Parenthesised := do
  if ← isEmpty then return .done (.tuple [] false)
  if ← peek hasLifetime then return .done (.paren (← g.lifetimeType))
  if ← peek (hasSign "?") then
    match ← g.traitBound? false with
    | some (relaxed, binder, path) => return .relaxed (.trait true relaxed binder path)
    | none => refuse "`const` is not allowed here"
  let first ← g.ty true true
  if ← peek (hasSign ",") then
    sign ","
    let (rest, trailing) ← terminated (g.ty true true)
    return .done (.tuple (first :: rest) (rest.isEmpty || trailing))
  return .single first

/-- A type that begins with a parenthesis. -/
def parenthesised (plus : Bool) : Reader Ty :=
  withinThen .parenthesis g.parenContent fun content => do
    match content with
    | .done ty => return ty
    | .relaxed bound => g.plusBounds bound
    | .single ty =>
      if plus && (← peek (hasSign "+")) then
        match parenBound? ty with
        | some bound => g.plusBounds bound
        | none => return .paren ty
      else return .paren ty

/-! ## Function pointers -/

/-- A name and its colon, as code. -/
def labelCode : Reader Code := do
  let name ← anyIdent
  sign ":"
  return [.ident name, .punct ':']

/-- A parameter of a function pointer, behind its attributes.  A first parameter may be a
receiver; a mutable one has no form of its own. -/
def functionParam (first : Bool) : Reader (Code × Ty) := do
  let ((lead, ty), taken) ← recorded do
    let mutSelf ← peek fun trees => first && hasWord "mut" trees && second (hasWord "self") trees
    if mutSelf then word "mut"
    let selfName ← peek fun trees => first && hasWord "self" trees
    let named ← peek fun trees =>
      (hasName trees || hasWord "_" trees || selfName)
        && second (hasSign ":") trees && !second (hasSign "::") trees
    let lead ← if named then labelCode else pure []
    let hasSelf := named && selfName
    if !hasSelf && (← peek fun trees =>
        first && hasWord "mut" trees && second (hasWord "self") trees) then
      word "mut"
      word "self"
      return (lead, none)
    else if mutSelf && !named then
      word "self"
      return (lead, none)
    else
      let ty ← g.ty true true
      return (lead, if mutSelf then none else some ty)
  match ty with
  | some ty => return (lead, ty)
  | none => return ([], .verbatim (Tree.codeOf taken))

/-- The dots of a variadic parameter, perhaps behind a name. -/
def startsVariadic : Test := fun trees =>
  hasSign "..." trees ||
    ((hasName trees || hasWord "_" trees) && second (hasSign ":") trees
      && third (hasSign "...") trees)

/-- A variadic parameter behind its attributes. -/
def variadic : Reader Code := do
  let lead ← if (← peek hasName) || (← peek (hasWord "_")) then labelCode else pure []
  sign "..."
  let comma ← optSign ","
  return lead ++ Token.sign ['.', '.', '.'] ++ (if comma then [.punct ','] else [])

/-- The parameters of a function pointer. -/
def functionParams : Reader (List Param × Bool × Code) :=
  repeatFrom (([] : List Param), true) fun (done, comma) => do
    if ← isEmpty then return .inr (done, comma && !done.isEmpty, [])
    let attrs := (← g.outerAttributes).flatMap Attribute.code
    if comma && (← peek startsVariadic) then
      return .inr (done, !done.isEmpty, attrs ++ (← variadic))
    let (lead, ty) ← g.functionParam done.isEmpty
    let done := done ++ [.mk (attrs ++ lead) ty]
    if ← isEmpty then return .inr (done, false, [])
    sign ","
    return .inl (done, true)

/-- The keyword `extern` with the name of a calling convention. -/
def convention : Reader Code := do
  if ← optWord "extern" then
    let isText : Test := fun trees =>
      match literal? trees with
      | some found => (Text.stringValue? found.value.toList).isSome
      | none => false
    if ← peek isText then return .word "extern" :: (← literal).code
    return [.word "extern"]
  else return []

/-- A function pointer behind its binder. -/
def functionType (binder : Code) : Reader Ty := do
  let mark ← if ← optWord "unsafe" then pure [.word "unsafe"] else pure []
  let convention ← convention
  word "fn"
  withinThen .parenthesis g.functionParams fun (params, trailing, variadic) => do
    let output ← g.output false
    return .function (binder ++ mark ++ convention ++ [.word "fn"]) params trailing variadic output

/-! ## Paths, traits and the rest -/

/-- Bounds behind a bare path; a `+` at the end is tolerated. -/
def trailingBounds (first : Bound) (plus : Bool) : Reader Ty := do
  let (bounds, trailing) ← repeatFrom [first] fun bounds => do
    if !(plus && (← peek (hasSign "+"))) then return .inr (bounds, false)
    sign "+"
    if ← peek (startsBound false) then return .inl (bounds ++ [← g.bound false false])
    return .inr (bounds, true)
  return .object false bounds trailing

/-- A type that begins with a path. -/
def pathType (binder : Option Code) (plus : Bool) : Reader Ty := do
  match ← g.qualifiedPath false with
  | (some (self, trait), path) => return .qualified self trait path.segments
  | (none, path) =>
    if path.isPlain && (← peek fun trees => hasSign "!" trees && !hasSign "!=" trees) then
      sign "!"
      let (delimiter, content, _) ← bracketedArgs
      return .invocation path delimiter (Tree.codeOf content)
    if binder.isSome || (plus && (← peek (hasSign "+"))) then
      g.trailingBounds (.trait false false (binder.getD []) path) plus
    else return .path path

/-- Does something begin here that the compiler provides? -/
def startsBuiltin : Test := fun trees => hasWord "builtin" trees && second (hasSign "#") trees

/-- Something that the compiler provides: `builtin # name(…)`. -/
def builtinCall : Reader Unit := do
  word "builtin"
  sign "#"
  discard name
  within .parenthesis (discard remaining)

/-- A type that the compiler provides. -/
def builtinType : Reader Ty := do
  let (_, taken) ← recorded builtinCall
  return .verbatim (Tree.codeOf taken)

/-- A trait object with `dyn`.  With a star behind it, it has no form of its own. -/
def dynType (plus : Bool) : Reader Ty := do
  let ((star, bounds, trailing), taken) ← recorded do
    word "dyn"
    let star ← optSign "*"
    let (bounds, trailing) ← g.bounds plus false false
    if !hasTrait bounds then refuse "at least one trait is required for an object type"
    return (star, bounds, trailing)
  if star then return .verbatim (Tree.codeOf taken)
  return .object true bounds trailing

/-- A slice or an array. -/
def bracketType : Reader Ty :=
  within .bracket do
    let item ← g.ty true true
    if ← optSign ";" then return .array item (← g.expr true).code
    return .slice item

/-- Whether a raw pointer may be written through, which has to be said. -/
def pointerMutability : Reader Bool := do
  if ← optWord "const" then return false
  else if ← optWord "mut" then return true
  else missing ["`const`", "`mut`"]

/-- A raw pointer. -/
def pointerType : Reader Ty := do
  sign "*"
  let mutable ← pointerMutability
  return .pointer mutable (← g.ty false true)

/-- A reference. -/
def referenceType : Reader Ty := do
  sign "&"
  let lifetime ← if ← peek hasLifetime then pure (some (← lifetime)) else pure none
  let mutable ← optWord "mut"
  return .reference lifetime mutable (← g.ty false true)

/-- An existential type. -/
def implType (plus : Bool) : Reader Ty := do
  word "impl"
  let (bounds, trailing) ← g.bounds plus true true
  if !hasTraitOrConst bounds then refuse "at least one trait must be specified"
  return .existential bounds trailing

/-- A type that does not begin with an invisible group or a binder. -/
def visibleType (binder : Option Code) (plus : Bool) : Reader Ty := do
  if ← peek (hasGroup .parenthesis) then g.parenthesised plus
  else if ← peek startsFunction then g.functionType (binder.getD [])
  else if ← peek startsBuiltin then builtinType
  else if ← peek fun trees => startsPathName trees || hasSign "::" trees || hasSign "<" trees then
    g.pathType binder plus
  else if ← peek (hasWord "dyn") then g.dynType plus
  else if ← peek (hasGroup .bracket) then g.bracketType
  else if ← peek (hasSign "*") then g.pointerType
  else if ← peek (hasSign "&") then g.referenceType
  else if ← peek fun trees => hasSign "!" trees && !hasSign "=" trees then
    sign "!"
    return .never
  else if ← peek (hasWord "impl") then g.implType plus
  else if ← optWord "_" then return .infer
  else if ← peek hasLifetime then g.lifetimeType
  else missing typeOpenings

/-- A type behind a binder.  What is kept as written keeps the binder, too. -/
def boundType (plus : Bool) : Reader Ty := do
  let (ty, taken) ← recorded do
    let binder ← g.binder
    if ← peek fun trees => startsPathName trees || startsFunction trees then
      g.visibleType (some binder) plus
    else missing boundTypeOpenings
  match ty with
  | .verbatim _ => return .verbatim (Tree.codeOf taken)
  | ty => return ty

/-- A type. -/
def typeRule (plus groupArgs : Bool) : Reader Ty := do
  if ← peek (hasGroup .invisible) then g.groupedType groupArgs
  else if ← peek (hasWord "for") then g.boundType plus
  else g.visibleType none plus

end Overlay.Grammar
