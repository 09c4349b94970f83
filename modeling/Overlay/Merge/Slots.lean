import Overlay.Token.Basic

/-!
Values of records: for each field, in the order of declaration, what it holds.
-/

namespace Overlay

/-- The fields of a record value; an absent field holds nothing. -/
abbrev Slots (V : Type) := List (Ident × Option V)

namespace Slots

variable {V : Type}

/-- What a field holds. -/
def content (slots : Slots V) (field : Ident) : Option V :=
  match slots.lookup field with
  | some held => held
  | none => none

/-- Takes a field's content out and leaves the field absent. -/
def take (field : Ident) : Slots V → Option V × Slots V
  | [] => (none, [])
  | (name, held) :: rest =>
    if name = field then (held, (name, none) :: rest)
    else
      let (taken, rest) := take field rest
      (taken, (name, held) :: rest)

/-- A record value in which every field is absent. -/
def absent (fields : List Ident) : Slots V := fields.map fun field => (field, none)

end Slots

end Overlay
