import Overlay.Derive.Record

/-!
The generated methods, as programs in a small language of their own, and the code that they print
as.

A method has the record itself as its receiver and a second record, the override.  Fields are taken
out of both, never moved: what is left behind is an absent field.
-/

namespace Overlay

/-- The two records that a method works on. -/
inductive Source where
  | receiver
  | override
deriving DecidableEq, Repr

/-- The content that a field is given. -/
inductive Content where
  /-- What a field holds; the field is absent from then on. -/
  | take (source : Source) (field : Ident)
  /-- The first content where it is present, the second otherwise.  Both are evaluated. -/
  | or (first second : Content)
deriving DecidableEq, Repr

/-- What a field of a record literal is set to. -/
inductive Initializer where
  | content (content : Content)
  | marker
deriving DecidableEq, Repr

/-- A field of a record literal. -/
structure Entry where
  label : Ident
  value : Initializer
deriving DecidableEq, Repr

/-- A statement of a method. -/
inductive Statement where
  /-- Mentions a parameter that is not used otherwise. -/
  | ignore (source : Source)
  /-- Ends the method with a record literal as its value. -/
  | result (entries : List Entry)
  /-- Assigns a record literal to the receiver. -/
  | assign (entries : List Entry)
deriving DecidableEq, Repr

/-- How a method takes its receiver. -/
inductive Passing where
  | value
  | reference
deriving DecidableEq, Repr

/-- A generated method. -/
structure Operation where
  doc : String
  visibility : Visibility
  name : String
  receiver : Passing
  /-- Whether parameters that are passed by value are bound mutably. -/
  mutable : Bool
  returnsSelf : Bool
  body : List Statement

namespace Source

/-- The parameter of a method. -/
def code : Source → Code
  | receiver => [.word "self"]
  | override => [.word "from"]

end Source

namespace Content

/-- The code of a content. -/
def code : Content → Code
  | take source field =>
    source.code ++ [.punct '.', .ident field, .punct '.', .word "take", .group .parenthesis []]
  | or first second =>
    first.code ++ [.punct '.', .word "or", .group .parenthesis second.code]

end Content

namespace Initializer

/-- The code of an initializer. -/
def code : Initializer → Code
  | content c => c.code
  | marker =>
    Token.sign [':', ':'] ++ .word "core" :: Token.sign [':', ':'] ++ .word "marker"
      :: Token.sign [':', ':'] ++ [.word "PhantomData"]

end Initializer

namespace Entry

/-- The code of a field of a record literal. -/
def code (e : Entry) : Code := .ident e.label :: .punct ':' :: e.value.code

/-- Merges a field: the override's content where it is present, the receiver's otherwise. -/
def merged (field : Ident) : Entry :=
  ⟨field, .content (.or (.take .override field) (.take .receiver field))⟩

/-- Mentions a marker. -/
def marker (field : Ident) : Entry := ⟨field, .marker⟩

/-- The code of a record literal. -/
def literalCode (entries : List Entry) : Code :=
  [.word "Self", .group .brace (Code.separated (.punct ',') false (entries.map Entry.code))]

end Entry

namespace Statement

/-- The code of a statement. -/
def code : Statement → Code
  | ignore source => [.word "let", .word "_", .punct '='] ++ source.code ++ [.punct ';']
  | result entries => Entry.literalCode entries
  | assign entries =>
    [.punct '*', .word "self", .punct '='] ++ Entry.literalCode entries ++ [.punct ';']

end Statement

namespace FieldNames

/-- The fields of the record literal: merged fields first, then markers. -/
def entries (m : FieldNames) : List Entry :=
  m.fields.map Entry.merged ++ m.markers.map Entry.marker

/-- Whether anything is taken out of the two records. -/
def takes (m : FieldNames) : Bool := !m.fields.isEmpty

/-- A method body that ends in `last`.  An override that nothing is taken from is mentioned
first. -/
def bodyWith (m : FieldNames) (last : Statement) : List Statement :=
  (if m.takes then [] else [.ignore .override]) ++ [last]

end FieldNames

namespace Operation

/-- The method that returns the merged record. -/
def merging (visibility : Visibility) (m : FieldNames) : Operation where
  doc := "Returns a new value taking each field from `from` when it is `Some`, "
    ++ "otherwise keeping the field of `self`."
  visibility := visibility
  name := "spread"
  receiver := .value
  mutable := m.takes
  returnsSelf := true
  body := m.bodyWith (.result m.entries)

/-- The method that merges into its receiver. -/
def mergingInPlace (visibility : Visibility) (m : FieldNames) : Operation where
  doc := "Spreads `from` over `self` in place: fields that are `Some` in `from` "
    ++ "replace the current ones. `self` is reassigned exactly once."
  visibility := visibility
  name := "mutating_spread"
  receiver := .reference
  mutable := m.takes
  returnsSelf := false
  body := m.bodyWith (.assign m.entries)

/-- The code of the body. -/
def bodyCode (op : Operation) : Code := op.body.flatMap Statement.code

/-- The mark of a mutable binding. -/
def bindingCode (op : Operation) : Code := if op.mutable then [.word "mut"] else []

/-- The code of the receiver. -/
def receiverCode (op : Operation) : Code :=
  match op.receiver with
  | .value => op.bindingCode ++ [.word "self"]
  | .reference => [.punct '&', .word "mut", .word "self"]

/-- An attribute of a method. -/
def attributeCode (content : Code) : Code := [.punct '#', .group .bracket content]

/-- The arrow and `Self` behind it. -/
def returnCode (returnsSelf : Bool) : Code :=
  if returnsSelf then Token.sign ['-', '>'] ++ [.word "Self"] else []

/-- The code of the whole method. -/
def code (op : Operation) : Code :=
  attributeCode [.word "doc", .punct '=', .literal (Text.quote op.doc)]
    ++ (if op.returnsSelf then attributeCode [.word "must_use"] else [])
    ++ op.visibility.code ++ [.word "fn", .word op.name]
    ++ [.group .parenthesis (op.receiverCode ++ .punct ',' :: op.bindingCode
          ++ Source.override.code ++ [.punct ':', .word "Self"])]
    ++ returnCode op.returnsSelf ++ [.group .brace op.bodyCode]

end Operation

end Overlay
