import Overlay.Lexer.Word

/-!
Number literals.  A floating-point number is tried first: it needs a point or an exponent.  Any
identifier behind the digits belongs to the literal as its suffix.
-/

namespace Overlay.Lexer

/-- The ten digits. -/
def isDigit (c : Char) : Bool := '0' ≤ c && c ≤ '9'

/-- What ends the part of a number in front of an exponent. -/
inductive MantissaEnd where
  /-- No exponent follows; the flag says whether there was a point. -/
  | bare (point : Bool)
  /-- An `e` was read; the flag says whether there was a point. -/
  | exponent (point : Bool)
deriving DecidableEq, Repr

/-- Digits with at most one point, up to an `e`.  The point must not be followed by another one or
by an identifier: such a number ends in front of it. -/
def mantissa (point : Bool) : List Char → Option (List Char × MantissaEnd × List Char)
  | [] => some ([], .bare point, [])
  | c :: cs =>
    if isDigit c || c = '_' then
      (mantissa point cs).map fun (taken, stop, rest) => (c :: taken, stop, rest)
    else if c = '.' then
      if point then some ([], .bare point, c :: cs)
      else if (cs.head?.map fun d => d = '.' || Unicode.isIdentStart d).getD false then none
      else (mantissa true cs).map fun (taken, stop, rest) => (c :: taken, stop, rest)
    else if c = 'e' || c = 'E' then some ([c], .exponent point, cs)
    else some ([], .bare point, c :: cs)

/-- The exponent behind its `e`: at most one sign, in front of the digits, and at least one digit.
Refuses what is no exponent. -/
def exponent (sign value : Bool) : Scanner
  | [] => if value then some ([], []) else none
  | c :: cs =>
    if c = '+' || c = '-' then
      if value then some ([], c :: cs)
      else if sign then none
      else Scanner.cons c (exponent true value cs)
    else if isDigit c then Scanner.cons c (exponent sign true cs)
    else if c = '_' then Scanner.cons c (exponent sign value cs)
    else if value then some ([], c :: cs)
    else none

/-- The digits of a floating-point number.  Where the exponent is malformed, the number ends in
front of it, provided that it has a point. -/
def floatDigits : Scanner
  | [] => none
  | c :: cs =>
    if isDigit c then
      match mantissa false cs with
      | none => none
      | some (_, .bare false, _) => none
      | some (taken, .bare true, rest) => some (c :: taken, rest)
      | some (taken, .exponent point, rest) =>
        match exponent false false rest with
        | some (more, rest) => some (c :: taken ++ more, rest)
        | none =>
          if point then some (c :: taken.dropLast, taken.drop (taken.length - 1) ++ rest)
          else none
    else none

/-- The value of a digit in bases up to sixteen; letters beyond the base end a number, while
decimal digits beyond it are an error. -/
def digitsIn (base : Nat) (decimal empty : Bool) : Scanner
  | [] => if empty then none else some ([], [])
  | c :: cs =>
    if isDigit c then
      if c.toNat - '0'.toNat < base then Scanner.cons c (digitsIn base decimal false cs) else none
    else if base = 16 && (('a' ≤ c && c ≤ 'f') || ('A' ≤ c && c ≤ 'F')) then
      Scanner.cons c (digitsIn base decimal false cs)
    else if c = '_' then
      if empty && decimal then none else Scanner.cons c (digitsIn base decimal empty cs)
    else if empty then none
    else some ([], c :: cs)

/-- The digits of an integer, with the mark of its base. -/
def intDigits : Scanner
  | '0' :: 'x' :: cs => Scanner.cons '0' (Scanner.cons 'x' (digitsIn 16 false true cs))
  | '0' :: 'o' :: cs => Scanner.cons '0' (Scanner.cons 'o' (digitsIn 8 false true cs))
  | '0' :: 'b' :: cs => Scanner.cons '0' (Scanner.cons 'b' (digitsIn 2 false true cs))
  | cs => digitsIn 10 true true cs

/-- A number must not run into a character of an identifier other than through its suffix. -/
def wordBreak : Scanner := fun cs =>
  if (cs.head?.map Unicode.isIdentContinue).getD false then none else some ([], cs)

/-- A number literal with its suffix. -/
def number : Scanner := fun cs =>
  (Scanner.andThen floatDigits (Scanner.andThen (Scanner.optional identChars) wordBreak) cs).orElse
    fun _ => Scanner.andThen intDigits (Scanner.andThen (Scanner.optional identChars) wordBreak) cs

end Overlay.Lexer
