/-!
Tokens of Rust text, as trees, and the text they print as.

A bracketed group is one token that holds its content.  Besides the three kinds of brackets there is
the invisible group, which a substituted fragment arrives in: it prints as its content alone, yet
keeps that content together for a reader.
-/

namespace Overlay

/-- An identifier or a keyword; `raw` ones are spelled with `r#` in front and are never keywords. -/
structure Ident where
  name : String
  raw : Bool := false
deriving DecidableEq, Repr, Inhabited

namespace Ident

/-- How an identifier is spelled. -/
def text (i : Ident) : String :=
  if i.raw then "r#" ++ i.name else i.name

end Ident

/-- Whether a punctuation character is glued to the one behind it. -/
inductive Spacing where
  | alone
  | joint
deriving DecidableEq, Repr, Inhabited

/-- The brackets of a group. -/
inductive Delimiter where
  | parenthesis
  | brace
  | bracket
  | invisible
deriving DecidableEq, Repr, Inhabited

namespace Delimiter

/-- What stands in front of the content.  An open brace is set off by a blank. -/
def opening : Delimiter → List Char
  | parenthesis => ['(']
  | brace => ['\x7b', ' ']
  | bracket => ['[']
  | invisible => []

/-- What stands behind the content. -/
def closing : Delimiter → List Char
  | parenthesis => [')']
  | brace => ['\x7d']
  | bracket => [']']
  | invisible => []

end Delimiter

/-- A token without content.  The apostrophe of a lifetime is a joint punctuation character in
front of an identifier. -/
inductive Atom where
  | ident (ident : Ident)
  | punct (char : Char) (spacing : Spacing)
  | literal (text : String)
deriving DecidableEq, Repr, Inhabited

namespace Atom

/-- How an atom is spelled. -/
def text : Atom → String
  | ident i => i.text
  | punct c _ => String.singleton c
  | literal t => t

end Atom

/-- A token tree. -/
inductive Token where
  | atom (atom : Atom)
  | group (delimiter : Delimiter) (content : List Token)
deriving Repr, Inhabited

/-- A stretch of code: what the generator writes, and what a piece of syntax prints as. -/
abbrev Code := List Token

namespace Token

/-- An identifier or keyword that is not raw. -/
@[match_pattern]
def word (name : String) : Token := atom (.ident ⟨name, false⟩)

/-- An identifier. -/
def ident (i : Ident) : Token := atom (.ident i)

/-- A literal, as spelled. -/
def literal (text : String) : Token := atom (.literal text)

/-- A single punctuation character that glues to nothing. -/
@[match_pattern]
def punct (c : Char) : Token := atom (.punct c .alone)

/-- Several punctuation characters that read as one sign: all but the last are joint. -/
def sign : List Char → Code
  | [] => []
  | [c] => [punct c]
  | c :: cs => atom (.punct c .joint) :: sign cs

/-- A lifetime: the apostrophe, joint to its name. -/
def lifetime (name : Ident) : Code := [atom (.punct '\'' .joint), ident name]

/-- Whether the next token follows without a blank. -/
def gluesRight : Token → Bool
  | atom (.punct _ .joint) => true
  | _ => false

mutual

/-- The characters that a token prints as. -/
def chars : Token → List Char
  | atom a => a.text.toList
  | group d content =>
    d.opening ++ charsOf content
      ++ (if d = .brace && !content.isEmpty then [' '] else []) ++ d.closing

/-- The characters of a stretch of code: one blank between tokens, none behind a joint
character. -/
def charsOf : List Token → List Char
  | [] => []
  | [t] => t.chars
  | t :: u :: rest => t.chars ++ (if t.gluesRight then [] else [' ']) ++ charsOf (u :: rest)

end

end Token

/-- The text that a stretch of code prints as. -/
def Code.text (code : Code) : String := String.ofList (Token.charsOf code)

end Overlay
