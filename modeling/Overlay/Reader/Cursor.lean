import Overlay.Token.Tree

/-!
Looking at the front of a sequence of token trees.

Invisible groups are transparent: whoever wants an identifier, a literal, a lifetime, punctuation or
brackets sees the first token inside of them.  A group that has been looked into this way dissolves
into what surrounds it.
-/

namespace Overlay.Cursor

mutual

/-- A tree with the invisible groups at its front dissolved: the empty ones that are passed over,
and what is left. -/
def openTree : Tree → List Tree × List Tree
  | .leaf a span => ([], [.leaf a span])
  | .group d content opening closing =>
    if d = .invisible then
      match settle content with
      | ([], []) => ([.group d content opening closing], [])
      | opened => opened
    else ([], [.group d content opening closing])

/-- A sequence with the invisible groups at its front dissolved: the empty ones that are passed
over, and a sequence that begins with a visible token if there is one. -/
def settle : List Tree → List Tree × List Tree
  | [] => ([], [])
  | t :: ts =>
    match openTree t with
    | (passed, []) =>
      let (more, rest) := settle ts
      (passed ++ more, rest)
    | (passed, opened) => (passed, opened ++ ts)

end

/-- Something found at the front: what it is, the trees that it consists of, and what follows.
Empty invisible groups in front of it belong to it. -/
structure Found (α : Type) where
  value : α
  taken : List Tree
  rest : List Tree

/-- An identifier or keyword at the front. -/
def ident? (trees : List Tree) : Option (Found Ident) :=
  match settle trees with
  | (passed, .leaf (.ident name) span :: rest) =>
    some ⟨name, passed ++ [.leaf (.ident name) span], rest⟩
  | _ => none

/-- A punctuation character at the front; the apostrophe of a lifetime is none. -/
def punct? (trees : List Tree) : Option (Found (Char × Spacing)) :=
  match settle trees with
  | (passed, .leaf (.punct c spacing) span :: rest) =>
    if c = '\'' then none else some ⟨(c, spacing), passed ++ [.leaf (.punct c spacing) span], rest⟩
  | _ => none

/-- A literal at the front, as spelled. -/
def literal? (trees : List Tree) : Option (Found String) :=
  match settle trees with
  | (passed, .leaf (.literal text) span :: rest) =>
    some ⟨text, passed ++ [.leaf (.literal text) span], rest⟩
  | _ => none

/-- A lifetime at the front: its apostrophe and its name. -/
def lifetime? (trees : List Tree) : Option (Found Ident) :=
  match settle trees with
  | (passed, .leaf (.punct '\'' .joint) span :: rest) =>
    match ident? rest with
    | some name =>
      some { name with taken := passed ++ .leaf (.punct '\'' .joint) span :: name.taken }
    | none => none
  | _ => none

/-- A group at the front: its content and its closing bracket. -/
def group? (delimiter : Delimiter) (trees : List Tree) : Option (Found (List Tree × Span)) :=
  match if delimiter = .invisible then ([], trees) else settle trees with
  | (passed, .group d content opening closing :: rest) =>
    if d = delimiter then
      some ⟨(content, closing), passed ++ [.group d content opening closing], rest⟩
    else none
  | _ => none

/-- Passes over one token; a lifetime counts as one. -/
def skip (trees : List Tree) : Option (List Tree) :=
  match (settle trees).2 with
  | [] => none
  | .leaf (.punct '\'' .joint) _ :: .leaf (.ident _) _ :: rest => some rest
  | _ :: rest => some rest

/-- A sign of one or more characters at the front: all but its last are joint. -/
def sign? : List Char → List Tree → Option (Found Unit)
  | [], trees => some ⟨(), [], trees⟩
  | c :: cs, trees =>
    match punct? trees with
    | some ⟨(d, spacing), taken, rest⟩ =>
      if d = c ∧ (cs = [] ∨ spacing = .joint) then
        match sign? cs rest with
        | some found => some { found with taken := taken ++ found.taken }
        | none => none
      else none
    | none => none

/-- What is looked for at the front of a sequence. -/
abbrev Test := List Tree → Bool

/-- Is there this sign? -/
def hasSign (text : String) : Test := fun trees => (sign? text.toList trees).isSome

/-- Is there this keyword? -/
def hasWord (word : String) : Test := fun trees =>
  match ident? trees with
  | some found => found.value = ⟨word, false⟩
  | none => false

/-- Is there any identifier, keywords included? -/
def hasAnyIdent : Test := fun trees => (ident? trees).isSome

/-- Is there a lifetime? -/
def hasLifetime : Test := fun trees => (lifetime? trees).isSome

/-- Are there these brackets? -/
def hasGroup (delimiter : Delimiter) : Test := fun trees => (group? delimiter trees).isSome

/-- Words that no plain identifier spells. -/
def keywords : List String :=
  ["_", "abstract", "as", "async", "await", "become", "box", "break", "const", "continue",
   "crate", "do", "dyn", "else", "enum", "extern", "false", "final", "fn", "for", "if", "impl",
   "in", "let", "loop", "macro", "match", "mod", "move", "mut", "override", "priv", "pub", "ref",
   "return", "Self", "self", "static", "struct", "super", "trait", "true", "try", "type",
   "typeof", "unsafe", "unsized", "use", "virtual", "where", "while", "yield"]

/-- An identifier that may name something: raw, or no keyword. -/
def isName (name : Ident) : Bool := name.raw || !keywords.contains name.name

/-- Is there an identifier that may name something? -/
def hasName : Test := fun trees =>
  match ident? trees with
  | some found => isName found.value
  | none => false

/-- A literal at the front, as spelled.  `true` and `false` are literals, and so is a number behind
a minus sign. -/
def signedLiteral? (trees : List Tree) : Option (Found String) :=
  match literal? trees with
  | some found => some found
  | none =>
    match ident? trees with
    | some found =>
      if found.value = ⟨"true", false⟩ ∨ found.value = ⟨"false", false⟩ then
        some { found with value := found.value.name }
      else none
    | none =>
      match punct? trees with
      | some ⟨('-', _), minus, rest⟩ =>
        match literal? rest with
        | some ⟨text, taken, rest⟩ =>
          if (text.toList.head?.map fun c => '0' ≤ c && c ≤ '9').getD false then
            some ⟨"-" ++ text, minus ++ taken, rest⟩
          else none
        | none => none
      | _ => none

/-- Is there a literal? -/
def hasLiteral : Test := fun trees => (signedLiteral? trees).isSome

/-- A test one token further on. -/
def second (test : Test) : Test := fun trees => ((skip trees).map test).getD false

/-- A test two tokens further on. -/
def third (test : Test) : Test := second (second test)

/-- The first token that is not inside of an empty invisible group, if there is one. -/
def visible? (trees : List Tree) : Option Tree := (settle trees).2.head?

end Overlay.Cursor
