import Overlay.Syntax.Generics

/-!
Declarations of record types, and of the other types that may stand in their place.
-/

namespace Overlay

/-- Who can see an item. -/
inductive Visibility where
  | inherited
  | visible
  /-- `pub(crate)` and the like, or `pub(in path)`. -/
  | restricted (inside : Bool) (path : Path)

namespace Visibility

/-- The code of a visibility; the inherited one is not written. -/
def code : Visibility → Code
  | inherited => []
  | visible => [.word "pub"]
  | restricted inside path =>
    [.word "pub", .group .parenthesis ((if inside then [.word "in"] else []) ++ path.code)]

end Visibility

/-- A named field, with the place of its type. -/
structure Field where
  attributes : List Attribute
  visibility : Visibility
  name : Ident
  ty : Ty
  span : Span

namespace Field

/-- The code of a field. -/
def code (f : Field) : Code :=
  f.attributes.flatMap Attribute.code ++ f.visibility.code
    ++ .ident f.name :: .punct ':' :: f.ty.code

end Field

/-- The kinds of declarations that have no named fields to merge. -/
inductive OtherKind where
  | enum
  | union
  | tupleStruct
  | unitStruct
deriving DecidableEq, Repr

/-- What a declaration declares. -/
inductive Body where
  | record (fields : List Field)
  | other (kind : OtherKind)

/-- A declared type. -/
structure Declaration where
  attributes : List Attribute
  visibility : Visibility
  /-- The place of the keyword that tells the kind of declaration. -/
  keyword : Span
  name : Ident
  generics : Generics
  body : Body

namespace OtherKind

/-- The keyword that opens a declaration of this kind. -/
def keyword : OtherKind → String
  | enum => "enum"
  | union => "union"
  | tupleStruct | unitStruct => "struct"

end OtherKind

end Overlay
