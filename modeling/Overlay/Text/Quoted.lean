import Overlay.Text.Hex

/-!
Reading the inside of Rust's quoted literals.

An automaton walks over the characters behind the opening quote; a phase remembers how much of an
escape has been read.  The same walk recognises the literal and computes its value, so a literal
that the lexer lets through always has one.
-/

namespace Overlay.Text

/-- The kinds of quoted literals, which differ in what they may hold. -/
inductive Flavour where
  /-- Characters. -/
  | text
  /-- Bytes: no character beyond ASCII, and no escape by code point. -/
  | bytes
  /-- A text that ends in a null byte, and so holds no other. -/
  | terminated
deriving DecidableEq, Repr

/-- Where in a quoted literal, or in one of its escapes, reading stands. -/
inductive Phase where
  | plain
  /-- Behind a carriage return, which only a line feed may follow. -/
  | carriage
  /-- Behind a backslash. -/
  | escape
  /-- Behind `\x`. -/
  | hex
  /-- Behind `\x` and one digit. -/
  | hexSecond (high : Nat)
  /-- Behind `\u`. -/
  | brace
  /-- Inside the braces of `\u`, with so many digits read. -/
  | code (digits value : Nat)
  /-- In the blanks behind a backslash at the end of a line, which are not part of the value. -/
  | gap
  /-- In such blanks, behind a carriage return. -/
  | gapCarriage
deriving DecidableEq, Repr

namespace Phase

/-- The characters that one may write raw. -/
def admits (flavour : Flavour) (c : Char) : Bool :=
  match flavour with
  | .text => true
  | .bytes => c.toNat < 128
  | .terminated => c.toNat ≠ 0

/-- One character outside of every escape. -/
def stepPlain (flavour : Flavour) (c : Char) : Option (Phase × Option Char) :=
  if c = '\r' then some (carriage, none)
  else if c = '\\' then some (escape, none)
  else if admits flavour c then some (plain, some c)
  else none

/-- The character behind a backslash. -/
def stepEscape (flavour : Flavour) (c : Char) : Option (Phase × Option Char) :=
  if c = 'x' then some (hex, none)
  else if c = 'n' then some (plain, some '\n')
  else if c = 'r' then some (plain, some '\r')
  else if c = 't' then some (plain, some '\t')
  else if c = '\\' ∨ c = '\'' ∨ c = '"' then some (plain, some c)
  else if c = '0' then
    if flavour = .terminated then none else some (plain, some (Char.ofNat 0))
  else if c = 'u' then
    if flavour = .bytes then none else some (brace, none)
  else if c = '\n' then some (gap, none)
  else if c = '\r' then some (gapCarriage, none)
  else none

/-- The second digit behind `\x`. -/
def stepHexSecond (flavour : Flavour) (high : Nat) (c : Char) : Option (Phase × Option Char) := do
  let low ← hexValue? c
  if flavour = .terminated ∧ high * 16 + low = 0 then none
  else some (plain, some (Char.ofNat (high * 16 + low)))

/-- One character inside the braces of `\u`: up to six digits, underscores behind the first, and
at the end a code point that is a character. -/
def stepCode (flavour : Flavour) (digits value : Nat) (c : Char) :
    Option (Phase × Option Char) :=
  match hexValue? c with
  | some d => if digits = 6 then none else some (code (digits + 1) (value * 16 + d), none)
  | none =>
    if digits = 0 then none
    else if c = '_' then some (code digits value, none)
    else if c = '\x7d' then
      if value.isValidChar ∧ ¬ (flavour = .terminated ∧ value = 0) then
        some (plain, some (Char.ofNat value))
      else none
    else none

/-- One step of the automaton: the next phase and the character of the value, if one is
complete. -/
def step (flavour : Flavour) : Phase → Char → Option (Phase × Option Char)
  | plain, c => stepPlain flavour c
  | carriage, c => if c = '\n' then some (plain, some '\n') else none
  | escape, c => stepEscape flavour c
  | hex, c => do
    let high ← hexValue? c
    if flavour = .text ∧ 8 ≤ high then none else some (hexSecond high, none)
  | hexSecond high, c => stepHexSecond flavour high c
  | brace, c => if c = '\x7b' then some (code 0 0, none) else none
  | code digits value, c => stepCode flavour digits value c
  | gap, c =>
    if c = '\r' then some (gapCarriage, none)
    else if c = ' ' ∨ c = '\t' ∨ c = '\n' then some (gap, none)
    else stepPlain flavour c
  | gapCarriage, c => if c = '\n' then some (gap, none) else none

/-- A quote ends the literal unless it belongs to an escape. -/
def mayClose : Phase → Bool
  | plain | gap => true
  | _ => false

end Phase

/-- A literal that was read up to its closing quote: the characters as written, the quote
included, the value that they stand for, and what follows. -/
structure Scanned where
  written : List Char
  value : List Char
  rest : List Char
deriving DecidableEq, Repr

namespace Scanned

/-- One more character in front, and perhaps one more in the value. -/
def push (c : Char) (emitted : Option Char) (s : Scanned) : Scanned :=
  ⟨c :: s.written, emitted.toList ++ s.value, s.rest⟩

end Scanned

/-- Reads a quoted literal from a phase on, up to its closing quote. -/
def scanQuoted (flavour : Flavour) : Phase → List Char → Option Scanned
  | _, [] => none
  | phase, c :: cs =>
    if phase.mayClose && c = '"' then some ⟨[c], [], cs⟩
    else
      match phase.step flavour c with
      | none => none
      | some (next, emitted) => (scanQuoted flavour next cs).map (Scanned.push c emitted)

/-- Reads a raw literal behind its opening quote: it ends at the first quote that is followed by
as many hash signs as stand in front of it, and has no escapes. -/
def scanRaw (flavour : Flavour) (hashes : Nat) : List Char → Option Scanned
  | [] => none
  | '\r' :: '\n' :: cs =>
    (scanRaw flavour hashes cs).map fun s => (s.push '\n' (some '\n')).push '\r' (some '\r')
  | c :: cs =>
    if c = '"' && cs.take hashes = List.replicate hashes '#' then
      some ⟨c :: List.replicate hashes '#', [], cs.drop hashes⟩
    else if c = '\r' || !Phase.admits flavour c then none
    else (scanRaw flavour hashes cs).map (Scanned.push c (some c))

/-- The hash signs in front of a raw literal, and what follows its opening quote.  More than 255
of them are refused. -/
def rawOpening? (cs : List Char) : Option (Nat × List Char) :=
  let hashes := cs.takeWhile (· = '#')
  match cs.dropWhile (· = '#') with
  | '"' :: rest => if hashes.length ≤ 255 then some (hashes.length, rest) else none
  | _ => none

/-- The value of a string literal, given its characters; a suffix behind it is ignored. -/
def stringValue? : List Char → Option (List Char)
  | '"' :: cs => (scanQuoted .text .plain cs).map Scanned.value
  | 'r' :: cs => do
    let (hashes, body) ← rawOpening? cs
    let scanned ← scanRaw .text hashes body
    return scanned.value
  | _ => none

end Overlay.Text
