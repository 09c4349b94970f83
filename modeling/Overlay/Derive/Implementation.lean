import Overlay.Derive.Operation

/-!
Everything that is derived for a record: its two methods, and an implementation of the runtime trait
that forwards to them.
-/

namespace Overlay

/-- What is derived for one record. -/
structure Implementation where
  record : Ident
  generics : Generics
  /-- The code that names the runtime crate. -/
  runtime : Code
  merging : Operation
  mergingInPlace : Operation

/-- Why nothing was derived. -/
inductive Failure where
  /-- The declaration is rejected. -/
  | rejected (error : DeriveError)
  /-- A field has a name that no record literal can mention. -/
  | unmentionable (field : Ident)

namespace Ident

/-- Whether a record literal can mention a field of this name: an underscore cannot be a label. -/
def isLabel (name : Ident) : Bool := Cursor.isName name

end Ident

namespace Record

/-- Builds the methods of a record.  This needs every field to be mentioned. -/
def implement (r : Record) (m : FieldNames) : Except Failure Implementation :=
  match (m.fields ++ m.markers).find? (!·.isLabel) with
  | some field => .error (.unmentionable field)
  | none =>
    .ok {
      record := r.name
      generics := r.generics
      runtime := r.settings.runtimeCode
      merging := .merging r.visibility m
      mergingInPlace := .mergingInPlace r.visibility m }

end Record

namespace Implementation

/-- Everything in front of the braces of an implementation; `trait` is what it implements. -/
def header (i : Implementation) (trait : Code) : Code :=
  Operation.attributeCode [.word "automatically_derived"] ++ .word "impl" :: i.generics.binders
    ++ trait ++ .ident i.record :: i.generics.arguments ++ i.generics.conditionsCode

/-- A method of the trait, which forwards to the method of the same name. -/
def forward (op : Operation) : Code :=
  let receiver : Code := match op.receiver with
    | .value => [.word "self"]
    | .reference => [.punct '&', .word "mut", .word "self"]
  let call : Code := .word "Self" :: Token.sign [':', ':'] ++ [.word op.name,
    .group .parenthesis [.word "self", .punct ',', .word "from"]]
  [.word "fn", .word op.name,
    .group .parenthesis (receiver ++ [.punct ',', .word "from", .punct ':', .word "Self"])]
    ++ Operation.returnCode op.returnsSelf
    ++ [.group .brace (if op.returnsSelf then call else call ++ [.punct ';'])]

/-- The record's own methods. -/
def inherentCode (i : Implementation) : Code :=
  i.header [] ++ [.group .brace (i.merging.code ++ i.mergingInPlace.code)]

/-- The implementation of the trait. -/
def traitCode (i : Implementation) : Code :=
  i.header (i.runtime ++ Token.sign [':', ':'] ++ [.word "Spread", .word "for"])
    ++ [.group .brace (forward i.merging ++ forward i.mergingInPlace)]

/-- All of the derived code. -/
def code (i : Implementation) : Code := i.inherentCode ++ i.traitCode

end Implementation

/-- Derives the implementation for a declaration.  The first thing that is wrong with it ends the
derivation. -/
def Declaration.implementation (d : Declaration) : Except Failure Implementation := do
  let record ← (Record.ofDeclaration d).mapError .rejected
  let merge ← record.fieldNames.mapError .rejected
  record.implement merge

end Overlay
