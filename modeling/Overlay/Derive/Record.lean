import Overlay.Derive.Error
import Overlay.Derive.Settings
import Overlay.Derive.Shape

/-!
Records: declarations that have named fields and readable settings, each field with its shape.  A
record whose fields all have a part in merging is reduced to their names.
-/

namespace Overlay

/-- A field with its shape. -/
structure Member where
  name : Ident
  ty : Ty
  span : Span
  shape : Shape

/-- A record that operations can be derived for, as far as its declaration goes. -/
structure Record where
  name : Ident
  visibility : Visibility
  generics : Generics
  members : List Member
  settings : Settings

/-- The names of the fields that are merged, and of the markers that are only mentioned, each in the
order of declaration. -/
structure FieldNames where
  fields : List Ident := []
  markers : List Ident := []
deriving DecidableEq, Repr

namespace Member

/-- A declared field with its shape. -/
def ofField (field : Field) : Member :=
  ⟨field.name, field.ty, field.span, Shape.of field.ty⟩

end Member

namespace Record

/-- The record that a declaration declares.  What kind of declaration it is, is looked at before its
attributes are. -/
def ofDeclaration (d : Declaration) : Except DeriveError Record :=
  match d.body with
  | .other kind => .error (.wrongKind d.name kind d.keyword)
  | .record fields =>
    match Settings.ofAttributes d.attributes with
    | .error fault => .error (.invalidAttribute fault)
    | .ok settings =>
      .ok ⟨d.name, d.visibility, d.generics, fields.map Member.ofField, settings⟩

/-- Sorts the members, up to the first one that has no part in merging. -/
def fieldNamesFrom (record : Ident) : List Member → Except DeriveError FieldNames
  | [] => .ok {}
  | m :: rest =>
    match m.shape with
    | .required => .error (.notOptional record m.name m.ty m.span)
    | .optional => (fieldNamesFrom record rest).map fun merge =>
        { merge with fields := m.name :: merge.fields }
    | .marker => (fieldNamesFrom record rest).map fun merge =>
        { merge with markers := m.name :: merge.markers }

/-- The names of the fields to merge, or the first field that cannot be. -/
def fieldNames (r : Record) : Except DeriveError FieldNames := fieldNamesFrom r.name r.members

end Record

end Overlay
