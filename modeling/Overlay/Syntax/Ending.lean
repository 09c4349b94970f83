import Overlay.Syntax.Type

/-!
What types end with.  Behind a closing brace, `else` would not be seen as part of a `let`; behind a
name without arguments, `<` would begin some.
-/

namespace Overlay

/-- The last token is a group in braces. -/
def Code.endsInBrace (code : Code) : Bool :=
  match code.getLast? with
  | some (.group .brace _) => true
  | _ => false

mutual

/-- The type ends with a closing brace: that of a macro call, which may be the result of a function
or the target of a pointer. -/
def Ty.endsInBrace : Ty → Bool
  | .path (.mk _ segments) => segmentsEndInBrace segments
  | .qualified _ _ rest => segmentsEndInBrace rest
  | .reference _ _ target => target.endsInBrace
  | .pointer _ target => target.endsInBrace
  | .function _ _ _ _ output => outputEndsInBrace output
  | .object _ bounds _ => boundsEndInBrace bounds
  | .existential bounds _ => boundsEndInBrace bounds
  | .invocation _ delimiter _ => delimiter = .brace
  | .verbatim code => code.endsInBrace
  | .paren _ | .group _ | .tuple _ _ | .slice _ | .array _ _ | .never | .infer => false

/-- The last segment of a path ends with a closing brace. -/
def segmentsEndInBrace : List Segment → Bool
  | [] => false
  | [.mk _ args] => argsEndInBrace args
  | _ :: next :: rest => segmentsEndInBrace (next :: rest)

/-- The arguments of a segment end with a closing brace. -/
def argsEndInBrace : Args → Bool
  | .called _ _ output => outputEndsInBrace output
  | .none | .angled _ _ _ => false

/-- The type behind an arrow ends with a closing brace. -/
def outputEndsInBrace : Option Ty → Bool
  | some ty => ty.endsInBrace
  | none => false

/-- The last bound ends with a closing brace. -/
def boundsEndInBrace : List Bound → Bool
  | [] => false
  | [.trait _ _ _ (.mk _ segments)] => segmentsEndInBrace segments
  | [.verbatim code] => code.endsInBrace
  | [.lifetime _] => false
  | _ :: next :: rest => boundsEndInBrace (next :: rest)

end

mutual

/-- The type ends with a name that has no arguments. -/
def Ty.endsInName : Ty → Bool
  | .path (.mk _ segments) => segmentsEndInName segments
  | .qualified _ _ rest => segmentsEndInName rest
  | .reference _ _ target => target.endsInName
  | .pointer _ target => target.endsInName
  | .function _ _ _ _ output => outputEndsInName output
  | .object _ bounds _ => boundsEndInName bounds
  | .existential bounds _ => boundsEndInName bounds
  | .invocation _ _ _ | .verbatim _ | .paren _ | .group _ | .tuple _ _ | .slice _ | .array _ _
  | .never | .infer => false

/-- The last segment of a path ends with a name. -/
def segmentsEndInName : List Segment → Bool
  | [] => false
  | [.mk _ args] => argsEndInName args
  | _ :: next :: rest => segmentsEndInName (next :: rest)

/-- A segment with these arguments ends with a name. -/
def argsEndInName : Args → Bool
  | .none => true
  | .called _ _ output => outputEndsInName output
  | .angled _ _ _ => false

/-- The type behind an arrow ends with a name. -/
def outputEndsInName : Option Ty → Bool
  | some ty => ty.endsInName
  | none => false

/-- The last bound ends with a name. -/
def boundsEndInName : List Bound → Bool
  | [] => false
  | [.trait _ _ _ (.mk _ segments)] => segmentsEndInName segments
  | [.verbatim _] => false
  | [.lifetime _] => false
  | _ :: next :: rest => boundsEndInName (next :: rest)

end

end Overlay
