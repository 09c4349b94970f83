import Overlay.Text.Hex
import Overlay.Unicode.Classes

/-!
Writing a text as the content of a Rust string literal.  What a terminal would not show as one
glyph is written by its code point, so a diagnostic survives the way through source text.
-/

namespace Overlay.Text

/-- The spelling of one character inside double quotes.  An apostrophe needs no escape there, and
the null character is spelled short unless a digit would be read as part of it. -/
def escapeChar (c : Char) (next : Option Char) : List Char :=
  if c.toNat = 0 then
    match next with
    | some d => if '0' ≤ d ∧ d ≤ '7' then ['\\', 'x', '0', '0'] else ['\\', '0']
    | none => ['\\', '0']
  else if c = '\t' then ['\\', 't']
  else if c = '\r' then ['\\', 'r']
  else if c = '\n' then ['\\', 'n']
  else if c = '"' then ['\\', '"']
  else if c = '\\' then ['\\', '\\']
  else if Unicode.isShown c then [c]
  else ['\\', 'u', '\x7b'] ++ hexDigits c.toNat ++ ['\x7d']

/-- The spelling of a text inside double quotes. -/
def escape : List Char → List Char
  | [] => []
  | c :: cs => escapeChar c cs.head? ++ escape cs

/-- A text as a string literal, quotes included. -/
def quote (text : String) : String :=
  String.ofList ('"' :: escape text.toList ++ ['"'])

end Overlay.Text
