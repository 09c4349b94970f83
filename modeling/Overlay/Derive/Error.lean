import Overlay.Reader.Problem
import Overlay.Syntax.Declaration
import Overlay.Text.Escape

/-!
Why nothing can be derived for a declaration, and how that is reported.
-/

namespace Overlay

namespace OtherKind

/-- The kind in words, with its article. -/
def description : OtherKind → String
  | enum => "an enum"
  | union => "a union"
  | tupleStruct => "a tuple struct"
  | unitStruct => "a unit struct"

end OtherKind

/-- The reasons for which a declaration is rejected. -/
inductive DeriveError where
  /-- The declaration has no named fields; the place is that of its keyword. -/
  | wrongKind (record : Ident) (kind : OtherKind) (span : Span)
  /-- A field can neither be merged nor left out; the place is that of its type. -/
  | notOptional (record member : Ident) (ty : Ty) (span : Span)
  /-- An attribute of the record is malformed. -/
  | invalidAttribute (fault : Fault)

namespace DeriveError

/-- The wording of an error. -/
def message : DeriveError → String
  | wrongKind record kind _ =>
    "Spreadable can only be derived for structs with named fields; `" ++ record.text ++ "` is "
      ++ kind.description
  | notOptional record member _ _ =>
    "all fields must be `Option<_>` to derive Spreadable; field `" ++ member.name ++ "` of `"
      ++ record.text ++ "` is not optional"
  | invalidAttribute fault => fault.problem.message

/-- Where an error is reported. -/
def span : DeriveError → Span
  | wrongKind _ _ span => span
  | notOptional _ _ _ span => span
  | invalidAttribute fault => fault.span

/-- The code that an error points at. -/
def location : DeriveError → Code
  | wrongKind _ kind _ => [.word kind.keyword]
  | notOptional _ _ ty _ => ty.code
  | invalidAttribute _ => []

/-- The code that makes the compiler report a message. -/
def diagnostic (message : String) : Code :=
  Token.sign [':', ':'] ++ .word "core" :: Token.sign [':', ':']
    ++ [.word "compile_error", .punct '!', .group .brace [.literal (Text.quote message)]]

/-- The code that stands for an error in the expanded program. -/
def code (e : DeriveError) : Code := diagnostic e.message

end DeriveError

end Overlay
