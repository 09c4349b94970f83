import Overlay.Syntax.Type

/-!
How a field takes part in merging, told from its type alone.

The type is looked at from outside: parentheses and invisible groups are taken off, and then only
the last name of a path counts.  No name is resolved, so an alias of `Option` is just another type.
-/

namespace Overlay

namespace Ty

/-- The type without the parentheses and invisible groups around it. -/
def bare : Ty → Ty
  | paren inner => inner.bare
  | group inner => inner.bare
  | ty => ty

/-- The last segment of a path type, if it has this name.  A path behind a self type does not
count. -/
def lastNamed? (ty : Ty) (name : String) : Option Segment :=
  match ty.bare with
  | path p =>
    match p.segments.getLast? with
    | some segment => if segment.name = ⟨name, false⟩ then some segment else none
    | none => none
  | _ => none

/-- The one argument between angle brackets, if it is a type. -/
def soleArgument? : Args → Option Ty
  | .angled _ [.type inner] _ => some inner
  | _ => none

/-- What an optional type is an option of. -/
def optionArgument? (ty : Ty) : Option Ty :=
  match ty.lastNamed? "Option" with
  | some segment => soleArgument? segment.args
  | none => none

/-- The type stores nothing: its last name is `PhantomData`, with or without arguments. -/
def isMarker (ty : Ty) : Bool := (ty.lastNamed? "PhantomData").isSome

end Ty

/-- How a field takes part in merging. -/
inductive Shape where
  /-- Merged by presence. -/
  | optional
  /-- Stores nothing, and is left out of the merge. -/
  | marker
  /-- Anything else: a record with such a field cannot be merged. -/
  | required
deriving DecidableEq, Repr

namespace Shape

/-- The shape of a field of this type. -/
def of (ty : Ty) : Shape :=
  if ty.optionArgument?.isSome then optional
  else if ty.isMarker then marker
  else required

end Shape

end Overlay
