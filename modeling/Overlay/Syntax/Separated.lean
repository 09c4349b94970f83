import Overlay.Token.Basic

/-!
Printing of lists: items with a separator between them and, where it was written, one behind the
last.
-/

namespace Overlay.Code

/-- The items of a list with `separator` between them, and behind the last when `trailing`. -/
def separated (separator : Token) (trailing : Bool) : List Code → Code
  | [] => []
  | [item] => if trailing then item ++ [separator] else item
  | item :: next :: rest => item ++ separator :: separated separator trailing (next :: rest)

/-- Items as they were written, each with the comma that follows it. -/
def withCommas (trailing : Bool) : List (Bool × Code) → List (Bool × Code × Bool)
  | [] => []
  | [(first, item)] => [(first, item, trailing)]
  | (first, item) :: next :: rest => (first, item, true) :: withCommas trailing (next :: rest)

/-- An item and the comma behind it. -/
def withComma (item : Code) (comma : Bool) : Code :=
  if comma then item ++ [.punct ','] else item

/-- A comma-separated list in which the marked items, the lifetimes, go first.  Every item keeps
the comma that was written behind it, and one is added where two items would run together. -/
def lifetimesFirst (items : List (Bool × Code)) (trailing : Bool) : Code :=
  let written := withCommas trailing items
  let lifetimes := written.filter (·.1)
  let others := written.filter (!·.1)
  let apart := match lifetimes.getLast? with
    | some (_, _, comma) => comma || others.isEmpty
    | none => true
  lifetimes.flatMap (fun item => withComma item.2.1 item.2.2)
    ++ (if apart then [] else [.punct ','])
    ++ others.flatMap (fun item => withComma item.2.1 item.2.2)

end Overlay.Code
