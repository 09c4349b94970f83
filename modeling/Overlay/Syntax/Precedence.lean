/-!
How tightly the parts of an expression hold together, and the binary operators by that measure.
-/

namespace Overlay

/-- How tightly an expression binds its parts, from the loosest on. -/
inductive Precedence where
  | jump | assign | range | or | and | binding | compare | bitOr | bitXor | bitAnd | shift | sum
  | product | cast | sign | primary
deriving DecidableEq, Repr

namespace Precedence

/-- The position in the order. -/
def level : Precedence → Nat
  | jump => 0 | assign => 1 | range => 2 | or => 3 | and => 4 | binding => 5 | compare => 6
  | bitOr => 7 | bitXor => 8 | bitAnd => 9 | shift => 10 | sum => 11 | product => 12 | cast => 13
  | sign => 14 | primary => 15

instance : LT Precedence := ⟨fun a b => a.level < b.level⟩

instance : LE Precedence := ⟨fun a b => a.level ≤ b.level⟩

instance (a b : Precedence) : Decidable (a < b) := Nat.decLt a.level b.level

instance (a b : Precedence) : Decidable (a ≤ b) := Nat.decLe a.level b.level

end Precedence

/-- A binary operator other than the plain assignment. -/
structure Operator where
  text : String
  precedence : Precedence
deriving DecidableEq, Repr

namespace Operator

/-- The binary operators, longer signs first. -/
def all : List Operator :=
  [⟨"+=", .assign⟩, ⟨"-=", .assign⟩, ⟨"*=", .assign⟩, ⟨"/=", .assign⟩, ⟨"%=", .assign⟩,
   ⟨"^=", .assign⟩, ⟨"&=", .assign⟩, ⟨"|=", .assign⟩, ⟨"<<=", .assign⟩, ⟨">>=", .assign⟩,
   ⟨"&&", .and⟩, ⟨"||", .or⟩, ⟨"<<", .shift⟩, ⟨">>", .shift⟩, ⟨"==", .compare⟩, ⟨"<=", .compare⟩,
   ⟨"!=", .compare⟩, ⟨">=", .compare⟩, ⟨"+", .sum⟩, ⟨"-", .sum⟩, ⟨"*", .product⟩,
   ⟨"/", .product⟩, ⟨"%", .product⟩, ⟨"^", .bitXor⟩, ⟨"&", .bitAnd⟩, ⟨"|", .bitOr⟩,
   ⟨"<", .compare⟩, ⟨">", .compare⟩]

/-- An expression may begin with the operator's sign, too. -/
def beginsExpr (op : Operator) : Bool :=
  ["-", "*", "&&", "||", "&", "|", "<<", "<"].contains op.text

/-- Behind a path the operator's sign would begin generic arguments. -/
def beginsArgs (op : Operator) : Bool :=
  ["<<", "<"].contains op.text

end Operator

end Overlay
