import Overlay.Syntax.Attribute

/-!
Generic parameters, and the two lists that an implementation makes of them: the parameters that it
binds, and the arguments that it applies its type to.
-/

namespace Overlay

/-- The parts of a generic parameter that depend on its kind. -/
inductive ParamKind where
  | lifetime (bounds : List Ident) (trailing : Bool)
  | type (bounds : List Bound) (trailing : Bool) (default : Option Ty)
  | const (ty : Ty) (default : Option Code)

/-- A generic parameter. -/
structure GenericParam where
  attributes : List Attribute
  name : Ident
  kind : ParamKind

namespace GenericParam

/-- Lifetimes go in front of other parameters. -/
def isLifetime (p : GenericParam) : Bool :=
  match p.kind with
  | .lifetime _ _ => true
  | _ => false

/-- The name, with the apostrophe of a lifetime: what the parameter is applied as. -/
def nameCode (p : GenericParam) : Code :=
  if p.isLifetime then Token.lifetime p.name else [.ident p.name]

/-- Bounds behind a colon; without bounds there is no colon. -/
def bounded (bounds : List Code) (trailing : Bool) : Code :=
  if bounds.isEmpty then [] else .punct ':' :: Code.separated (.punct '+') trailing bounds

/-- The parameter as it is bound: with attributes and bounds, but without a default. -/
def binding (p : GenericParam) : Code :=
  p.attributes.flatMap Attribute.code ++
    match p.kind with
    | .lifetime bounds trailing =>
      Token.lifetime p.name ++ bounded (bounds.map Token.lifetime) trailing
    | .type bounds trailing _ => .ident p.name :: bounded (bounds.map Bound.code) trailing
    | .const ty _ => [.word "const", .ident p.name, .punct ':'] ++ ty.code

/-- The default behind an equals sign. -/
def defaultCode (p : GenericParam) : Code :=
  match p.kind with
  | .type _ _ (some ty) => .punct '=' :: ty.code
  | .const _ (some value) => .punct '=' :: value
  | _ => []

/-- The parameter as it is declared. -/
def code (p : GenericParam) : Code := p.binding ++ p.defaultCode

end GenericParam

/-- One condition of a `where` clause. -/
inductive Predicate where
  | lifetime (name : Ident) (bounds : List Ident) (trailing : Bool)
  | type (binder : Code) (ty : Ty) (bounds : List Bound) (trailing : Bool)

namespace Predicate

/-- The code of a condition. -/
def code : Predicate → Code
  | lifetime name bounds trailing =>
    Token.lifetime name ++ .punct ':'
      :: Code.separated (.punct '+') trailing (bounds.map Token.lifetime)
  | type binder ty bounds trailing =>
    binder ++ ty.code ++ .punct ':'
      :: Code.separated (.punct '+') trailing (bounds.map Bound.code)

end Predicate

/-- The conditions of a `where` clause. -/
structure WhereClause where
  predicates : List Predicate
  trailing : Bool

namespace WhereClause

/-- The code of a clause; without conditions there is no `where`. -/
def code (w : WhereClause) : Code :=
  if w.predicates.isEmpty then []
  else .word "where" :: Code.separated (.punct ',') w.trailing (w.predicates.map Predicate.code)

/-- The code of a clause that may be absent. -/
def optCode : Option WhereClause → Code
  | some clause => clause.code
  | none => []

end WhereClause

/-- The generic parameters of a declaration, and the conditions on them. -/
structure Generics where
  params : List GenericParam := []
  trailing : Bool := false
  conditions : Option WhereClause := none

namespace Generics

/-- A list of parameters between angle brackets, lifetimes first; without parameters there are no
brackets. -/
def angled (g : Generics) (spell : GenericParam → Code) : Code :=
  if g.params.isEmpty then []
  else [.punct '<']
    ++ Code.lifetimesFirst (g.params.map fun p => (p.isLifetime, spell p)) g.trailing
    ++ [.punct '>']

/-- The parameters as they are declared. -/
def declared (g : Generics) : Code := g.angled GenericParam.code

/-- The parameters that an implementation binds. -/
def binders (g : Generics) : Code := g.angled GenericParam.binding

/-- The arguments that the implemented type is applied to. -/
def arguments (g : Generics) : Code := g.angled GenericParam.nameCode

/-- The conditions, with their `where`. -/
def conditionsCode (g : Generics) : Code := WhereClause.optCode g.conditions

end Generics

end Overlay
