import Overlay.Grammar.Member
import Overlay.Grammar.Path

/-!
Rules for patterns.  Patterns occur in types only inside of blocks, and are kept as code.
-/

namespace Overlay.Grammar

open Reader Cursor

variable (g : Grammar)

/-- The code of a path in an expression or pattern. -/
def qualifiedCode (qualifier : Option (Ty × Option Path)) (path : Path) : Code :=
  match qualifier with
  | some (self, trait) => (Ty.qualified self trait path.segments).code
  | none => path.code

/-- A macro call behind its path, and whether it has braces. -/
def invocationArgs : Reader (Code × Bool) := do
  sign "!"
  let (delimiter, content, _) ← bracketedArgs
  return ([.punct '!', .group delimiter (Tree.codeOf content)], delimiter = .brace)

/-- Does a macro call follow a path? -/
def startsInvocation : Test := fun trees => hasSign "!" trees && !hasSign "!=" trees

/-! ## Ranges -/

/-- The dots of a range in a pattern, where three of them are a closed range in the old style; the
flag says whether an end must follow. -/
def patternDots : Reader (Code × Bool) := do
  if ← optSign "..=" then return (Token.sign ['.', '.', '='], true)
  else if ← optSign "..." then return (Token.sign ['.', '.', '='], true)
  else
    sign ".."
    return (Token.sign ['.', '.'], false)

/-- Does a pattern end here, so that a range has no bound? -/
def endsPattern : Test := fun trees =>
  trees.isEmpty || hasSign "|" trees || hasSign "=" trees
    || (hasSign ":" trees && !hasSign "::" trees) || hasSign "," trees || hasSign ";" trees
    || hasWord "if" trees

/-- Does a path begin here? -/
def startsPath : Test := fun trees =>
  hasName trees || hasSign "::" trees || hasSign "<" trees || hasWord "self" trees
    || hasWord "Self" trees || hasWord "super" trees || hasWord "crate" trees

/-- A bound of a range, if there is one.  By itself it is a pattern, too. -/
def rangeBound? : Reader (Option Pattern) := do
  if ← peek endsPattern then return none
  if ← peek hasLiteral then return some ⟨(← literal).code, .other⟩
  if ← peek startsPath then
    let (qualifier, path) ← g.qualifiedPath true
    return some ⟨qualifiedCode qualifier path, .other⟩
  if ← optWord "const" then
    let (attrs, statements) ← g.blockParts
    return some ⟨[.word "const", .group .brace (attrs ++ statements)],
      .constant [.word "const", .group .brace statements]⟩
  missing ["literal", "identifier", "`::`", "`<`", "`self`", "`Self`", "`super`", "`crate`",
    "`const`"]

/-- The dots and the end of a range behind its start.  Dots without start and end are no range. -/
def rangeBehindPattern (start : Option Code) : Reader Pattern := do
  let (dots, needed) ← patternDots
  match ← g.rangeBound? with
  | some stop => return ⟨start.getD [] ++ dots ++ stop.code, .range start.isSome⟩
  | none =>
    if needed then missing ["range upper bound"]
    return ⟨start.getD [] ++ dots, if start.isSome then .range false else .rest⟩

/-! ## Patterns with parts -/

/-- Patterns separated by commas, up to the end of the brackets. -/
def patternList : Reader (List Pattern × Bool) := terminated (g.pattern true)

/-- The code of a list of patterns. -/
def listCode (items : List Pattern) (trailing : Bool) : Code :=
  Code.separated (.punct ',') trailing (items.map Pattern.code)

/-- A named field of a struct pattern behind its attributes. -/
def fieldPattern : Reader Code := do
  let ((marks, field, colon), taken) ← recorded do
    let boxed ← optWord "box"
    let byRef ← optWord "ref"
    let mutable ← optWord "mut"
    let marks : Code := (if boxed then [.word "box"] else [])
      ++ (if byRef then [.word "ref"] else []) ++ (if mutable then [.word "mut"] else [])
    let field ← if marks.isEmpty then member else pure (.name (← name))
    let colon := marks.isEmpty && (← peek (hasSign ":"))
    return (marks, field, colon)
  if colon || !field.isName then
    sign ":"
    return field.code ++ .punct ':' :: (← g.pattern true).code
  match marks with
  | .atom (.ident ⟨"box", false⟩) :: _ => return Tree.codeOf taken
  | marks => return marks ++ field.code

/-- The fields of a struct pattern.  Two dots end the list, and nothing may follow them. -/
def fieldPatterns : Reader Code :=
  repeatFrom ([] : Code) fun code => do
    if ← isEmpty then return .inr code
    let attrs ← g.attributesCode
    if ← optSign ".." then return .inr (code ++ attrs ++ Token.sign ['.', '.'])
    let field ← g.fieldPattern
    if ← isEmpty then return .inr (code ++ attrs ++ field)
    sign ","
    return .inl (code ++ attrs ++ field ++ [.punct ','])

/-- A pattern that begins with a path. -/
def pathPattern : Reader Pattern := do
  let (qualifier, path) ← g.qualifiedPath true
  let code := qualifiedCode qualifier path
  if qualifier.isNone && path.isPlain && (← peek startsInvocation) then
    return ⟨code ++ (← invocationArgs).1, .other⟩
  if ← peek (hasGroup .brace) then
    return ⟨code ++ [.group .brace (← within .brace g.fieldPatterns)], .other⟩
  if ← peek (hasGroup .parenthesis) then
    let (items, trailing) ← within .parenthesis g.patternList
    return ⟨code ++ [.group .parenthesis (listCode items trailing)], .other⟩
  if ← peek (hasSign "..") then g.rangeBehindPattern (some code)
  else return ⟨code, .other⟩

/-- A name that a pattern binds. -/
def bindingPattern : Reader Pattern := do
  let byRef ← optWord "ref"
  let mutable ← optWord "mut"
  let name ← if ← peek (hasWord "self") then anyIdent else name
  let code := (if byRef then [.word "ref"] else []) ++ (if mutable then [.word "mut"] else [])
    ++ [.ident name]
  if ← optSign "@" then return ⟨code ++ .punct '@' :: (← g.pattern false).code, .other⟩
  return ⟨code, .other⟩

/-- A pattern in a box, which is kept as it was written. -/
def boxPattern : Reader Pattern := do
  let (_, taken) ← recorded do
    word "box"
    discard (g.pattern false)
  return ⟨Tree.codeOf taken, .verbatim⟩

/-- A literal, or a range that begins with one. -/
def literalPattern : Reader Pattern := do
  match ← g.rangeBound? with
  | some start =>
    if ← peek (hasSign "..") then g.rangeBehindPattern (some start.code) else return start
  | none => missing ["literal"]

/-- A pattern behind a reference. -/
def referencePattern : Reader Pattern := do
  sign "&"
  let mutable ← optWord "mut"
  let target ← g.pattern false
  return ⟨.punct '&' :: (if mutable then [.word "mut"] else []) ++ target.code, .other⟩

/-- A pattern that lacks one end of a range. -/
def isUnbounded (p : Pattern) : Bool :=
  match p.kind with
  | .range complete => !complete
  | _ => false

/-- A pattern of a slice.  A range in it has to be complete, or in parentheses. -/
def slicePattern : Reader Pattern := do
  let (items, trailing) ← within .bracket <| terminated do
    let item ← g.pattern true
    if isUnbounded item then
      refuse "range pattern is not allowed unparenthesized inside slice pattern"
    return item
  return ⟨[.group .bracket (listCode items trailing)], .other⟩

/-! ## Choosing among them -/

/-- Does a pattern begin here that is a path? -/
def startsPathPattern : Test := fun trees =>
  (hasName trees && (second (hasSign "::") trees || second (hasSign "!") trees
      || second (hasGroup .brace) trees || second (hasGroup .parenthesis) trees
      || second (hasSign "..") trees))
    || (hasWord "self" trees && second (hasSign "::") trees)
    || hasSign "::" trees || hasSign "<" trees || hasWord "Self" trees || hasWord "super" trees
    || hasWord "crate" trees

/-- What may open a pattern, as a message lists it. -/
def patternOpenings (dots : Bool) : List String :=
  ["identifier", "`::`", "`<`", "`_`", "literal", "`const`", "`ref`", "`mut`", "`&`",
    "parentheses", "square brackets"] ++ (if dots then [] else ["`..`"]) ++ ["`const`"]

/-- A pattern without alternatives. -/
def singlePattern : Reader Pattern := do
  if ← peek startsPathPattern then g.pathPattern
  else if ← optWord "_" then return ⟨[.word "_"], .other⟩
  else if ← peek (hasWord "box") then g.boxPattern
  else if ← peek fun trees => hasSign "-" trees || hasLiteral trees || hasWord "const" trees then
    g.literalPattern
  else if ← peek fun trees =>
      hasWord "ref" trees || hasWord "mut" trees || hasWord "self" trees || hasName trees then
    g.bindingPattern
  else if ← peek (hasSign "&") then g.referencePattern
  else if ← peek (hasGroup .parenthesis) then
    let (items, trailing) ← within .parenthesis g.patternList
    return ⟨[.group .parenthesis (listCode items trailing)], .other⟩
  else if ← peek (hasGroup .bracket) then g.slicePattern
  else if ← peek fun trees => hasSign ".." trees && !hasSign "..." trees then
    g.rangeBehindPattern none
  else missing (patternOpenings (← peek (hasSign "..")))

/-- Does another alternative follow? -/
def startsAlternative : Test := fun trees =>
  hasSign "|" trees && !hasSign "||" trees && !hasSign "|=" trees

/-- A pattern of several alternatives, or a single one without a bar in front. -/
def anyPattern : Reader Pattern := do
  let leading ← optSign "|"
  let first ← g.singlePattern
  if !leading && !(← peek startsAlternative) then return first
  let code ← repeatFrom ((if leading then [.punct '|'] else []) ++ first.code) fun code => do
    if ← peek startsAlternative then
      sign "|"
      return .inl (code ++ .punct '|' :: (← g.singlePattern).code)
    return .inr code
  return ⟨code, .other⟩

/-- A pattern, perhaps of several alternatives. -/
def patternRule (alternatives : Bool) : Reader Pattern :=
  if alternatives then g.anyPattern else g.singlePattern

/-- A pattern whose attributes are these alone: a range is put into parentheses, a constant block
loses those inside of it, and what is kept as it was written has no place for any. -/
def attributedPattern (attrs : Code) (p : Pattern) : Code :=
  match p.kind with
  | .verbatim => p.code
  | .constant plain => attrs ++ plain
  | .range _ => if attrs.isEmpty then p.code else attrs ++ [.group .parenthesis p.code]
  | _ => attrs ++ p.code

end Overlay.Grammar
