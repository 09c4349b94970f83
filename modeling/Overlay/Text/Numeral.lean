import Overlay.Text.Hex
import Overlay.Unicode.Classes

/-!
The values of integer literals.  A number with a point or an exponent is no integer; what looks like
an exponent without digits is a suffix.
-/

namespace Overlay.Text

/-- An integer literal without its sign: its value, and the letters behind its digits. -/
structure Integer where
  value : Nat
  suffix : List Char
deriving DecidableEq, Repr

/-- One of the ten digits. -/
def isDecimal (c : Char) : Bool := '0' ≤ c && c ≤ '9'

/-- Letters that may stand behind the digits of a number. -/
def isSuffix : List Char → Bool
  | [] => true
  | c :: cs => Unicode.isIdentStart c && cs.all Unicode.isIdentContinue

/-- Is this, behind an `e`, the rest of an exponent?  It is when it has a sign, or digits with no
more than a suffix behind them. -/
def isExponent (digits : Bool) : List Char → Bool
  | [] => digits
  | c :: cs =>
    if c = '_' then isExponent digits cs
    else if c = '-' || c = '+' then true
    else if isDecimal c then isExponent true cs
    else digits && isSuffix (c :: cs)

/-- The value of a digit in a base.  Letters are digits only beyond base ten. -/
def digitValue? (base : Nat) (c : Char) : Option Nat :=
  if isDecimal c || 10 < base then hexValue? c else none

/-- Reads digits of a base behind those that make `value`, up to a suffix.  Underscores do not
count. -/
def integerFrom (base : Nat) (seen : Bool) (value : Nat) : List Char → Option Integer
  | [] => if seen then some ⟨value, []⟩ else none
  | c :: cs =>
    if c = '_' then integerFrom base seen value cs
    else if base = 10 && c = '.' then none
    else if base = 10 && (c = 'e' || c = 'E') && isExponent false cs then none
    else
      match digitValue? base c with
      | some digit => if digit < base then integerFrom base true (value * base + digit) cs else none
      | none => if seen && isSuffix (c :: cs) then some ⟨value, c :: cs⟩ else none

/-- The integer that a literal spells, if it spells one. -/
def integer? : List Char → Option Integer
  | '0' :: 'x' :: cs => integerFrom 16 false 0 cs
  | '0' :: 'o' :: cs => integerFrom 8 false 0 cs
  | '0' :: 'b' :: cs => integerFrom 2 false 0 cs
  | c :: cs => if isDecimal c then integerFrom 10 false 0 (c :: cs) else none
  | [] => none

/-- A number that is no integer. -/
def isFloat (text : List Char) : Bool :=
  (text.head?.any isDecimal) && (integer? text).isNone

end Overlay.Text
