import Overlay.Syntax.Separated

/-!
Types of Rust, with the paths, generic arguments and bounds that they are built from.

Expressions occur in types only as array lengths and constant arguments.  Nothing looks inside of
them, so they are kept as the code that they print as.
-/

namespace Overlay

mutual

/-- A type. -/
inductive Ty where
  /-- `a::B<C>`. -/
  | path (path : Path)
  /-- `<S as T>::A::B`, or `<S>::A` without a trait. -/
  | qualified (self : Ty) (trait : Option Path) (rest : List Segment)
  | paren (inner : Ty)
  /-- A type in an invisible group. -/
  | group (inner : Ty)
  | tuple (items : List Ty) (trailing : Bool)
  | slice (item : Ty)
  | array (item : Ty) (length : Code)
  | reference (lifetime : Option Ident) (mutable : Bool) (target : Ty)
  | pointer (mutable : Bool) (target : Ty)
  /-- A function pointer; `head` is what stands in front of the parameters. -/
  | function (head : Code) (params : List Param) (trailing : Bool) (variadic : Code)
      (output : Option Ty)
  /-- A trait object, with or without `dyn`. -/
  | object (dyn : Bool) (bounds : List Bound) (trailing : Bool)
  /-- `impl A + B`. -/
  | existential (bounds : List Bound) (trailing : Bool)
  /-- A macro call. -/
  | invocation (path : Path) (delimiter : Delimiter) (body : Code)
  | never
  | infer
  /-- A type that has no form of its own here. -/
  | verbatim (code : Code)

/-- A path; `leading` ones begin with `::`. -/
inductive Path where
  | mk (leading : Bool) (segments : List Segment)

/-- One name of a path with its generic arguments. -/
inductive Segment where
  | mk (name : Ident) (args : Args)

/-- The arguments behind a name. -/
inductive Args where
  | none
  /-- `<A, B>`, or `::<A, B>` with the turbofish. -/
  | angled (turbofish : Bool) (items : List Arg) (trailing : Bool)
  /-- `(A, B) -> C`. -/
  | called (inputs : List Ty) (trailing : Bool) (output : Option Ty)

/-- One argument between angle brackets. -/
inductive Arg where
  | lifetime (name : Ident)
  | type (ty : Ty)
  | const (value : Code)
  /-- `Item = T`. -/
  | assocType (name : Ident) (args : Args) (ty : Ty)
  /-- `N = 3`. -/
  | assocConst (name : Ident) (args : Args) (value : Code)
  /-- `Item: A + B`. -/
  | constraint (name : Ident) (args : Args) (bounds : List Bound) (trailing : Bool)

/-- A bound. -/
inductive Bound where
  | lifetime (name : Ident)
  /-- A trait, perhaps in parentheses, after `?`, or behind a binder `for<…>`. -/
  | trait (paren relaxed : Bool) (binder : Code) (path : Path)
  | verbatim (code : Code)

/-- A parameter of a function pointer; `lead` holds its attributes and its name. -/
inductive Param where
  | mk (lead : Code) (ty : Ty)

end

instance : Inhabited Ty := ⟨.never⟩

namespace Path

def leading : Path → Bool
  | mk leading _ => leading

def segments : Path → List Segment
  | mk _ segments => segments

end Path

namespace Segment

def name : Segment → Ident
  | mk name _ => name

def args : Segment → Args
  | mk _ args => args

/-- A name without arguments. -/
def plain (name : Ident) : Segment := mk name .none

end Segment

namespace Path

/-- A path of plain names. -/
def ofNames (leading : Bool) (names : List Ident) : Path :=
  mk leading (names.map Segment.plain)

/-- No segment has arguments. -/
def isPlain (p : Path) : Bool :=
  p.segments.all fun segment => match segment.args with
    | .none => true
    | _ => false

end Path

/-! ## Printing -/

mutual

/-- The code of a type. -/
def Ty.code : Ty → Code
  | .path p => p.code
  | .qualified self .none rest =>
    [.punct '<'] ++ self.code ++ [.punct '>'] ++ Token.sign [':', ':']
      ++ segmentsCode rest
  | .qualified self (.some (.mk leading segments)) rest =>
    [.punct '<'] ++ self.code ++ [.word "as"]
      ++ (if leading then Token.sign [':', ':'] else []) ++ segmentsCode segments
      ++ [.punct '>'] ++ Token.sign [':', ':'] ++ segmentsCode rest
  | .paren inner => [.group .parenthesis inner.code]
  | .group inner => [.group .invisible inner.code]
  | .tuple items trailing =>
    [.group .parenthesis (Code.separated (.punct ',') trailing (tyCodes items))]
  | .slice item => [.group .bracket item.code]
  | .array item length => [.group .bracket (item.code ++ .punct ';' :: length)]
  | .reference lifetime mutable target =>
    .punct '&' :: (match lifetime with | some name => Token.lifetime name | none => [])
      ++ (if mutable then [.word "mut"] else []) ++ target.code
  | .pointer mutable target =>
    [.punct '*', .word (if mutable then "mut" else "const")] ++ target.code
  | .function head params trailing variadic output =>
    head ++ [.group .parenthesis
      (Code.separated (.punct ',') trailing (paramCodes params) ++ variadic)]
      ++ outputCode output
  | .object dyn bounds trailing =>
    (if dyn then [.word "dyn"] else [])
      ++ Code.separated (.punct '+') trailing (boundCodes bounds)
  | .existential bounds trailing =>
    .word "impl" :: Code.separated (.punct '+') trailing (boundCodes bounds)
  | .invocation path delimiter body => path.code ++ [.punct '!', .group delimiter body]
  | .never => [.punct '!']
  | .infer => [.word "_"]
  | .verbatim code => code

/-- The code of a path. -/
def Path.code : Path → Code
  | .mk leading segments =>
    (if leading then Token.sign [':', ':'] else []) ++ segmentsCode segments

/-- The code of the segments of a path. -/
def segmentsCode : List Segment → Code
  | [] => []
  | [segment] => segment.code
  | segment :: next :: rest =>
    segment.code ++ Token.sign [':', ':'] ++ segmentsCode (next :: rest)

/-- The code of a segment. -/
def Segment.code : Segment → Code
  | .mk name args => .ident name :: args.code

/-- The code of the arguments behind a name: lifetimes go first. -/
def Args.code : Args → Code
  | .none => []
  | .angled turbofish items trailing =>
    (if turbofish then Token.sign [':', ':'] else [])
      ++ [.punct '<'] ++ Code.lifetimesFirst (argCodes items) trailing ++ [.punct '>']
  | .called inputs trailing output =>
    .group .parenthesis (Code.separated (.punct ',') trailing (tyCodes inputs))
      :: outputCode output

/-- The code of an argument, marked when it is a lifetime. -/
def Arg.markedCode : Arg → Bool × Code
  | .lifetime name => (true, Token.lifetime name)
  | .type ty => (false, ty.code)
  | .const value => (false, value)
  | .assocType name args ty => (false, .ident name :: args.code ++ .punct '=' :: ty.code)
  | .assocConst name args value => (false, .ident name :: args.code ++ .punct '=' :: value)
  | .constraint name args bounds trailing =>
    (false, .ident name :: args.code ++ .punct ':'
      :: Code.separated (.punct '+') trailing (boundCodes bounds))

/-- The code of a bound. -/
def Bound.code : Bound → Code
  | .lifetime name => Token.lifetime name
  | .trait paren relaxed binder path =>
    let inner := (if relaxed then [.punct '?'] else []) ++ binder ++ path.code
    if paren then [.group .parenthesis inner] else inner
  | .verbatim code => code

/-- The code of a parameter of a function pointer. -/
def Param.code : Param → Code
  | .mk lead ty => lead ++ ty.code

/-- The code of an arrow and the type behind it. -/
def outputCode : Option Ty → Code
  | none => []
  | some ty => Token.sign ['-', '>'] ++ ty.code

def tyCodes : List Ty → List Code
  | [] => []
  | ty :: rest => ty.code :: tyCodes rest

def argCodes : List Arg → List (Bool × Code)
  | [] => []
  | arg :: rest => arg.markedCode :: argCodes rest

def boundCodes : List Bound → List Code
  | [] => []
  | bound :: rest => bound.code :: boundCodes rest

def paramCodes : List Param → List Code
  | [] => []
  | param :: rest => param.code :: paramCodes rest

end

end Overlay
