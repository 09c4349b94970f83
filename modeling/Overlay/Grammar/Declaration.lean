import Overlay.Grammar.Depth

/-!
Rules for declarations of types, and readers for all of a sequence of tokens.
-/

namespace Overlay.Grammar

open Reader Cursor

variable (g : Grammar)

/-- The keyword of a declaration, which decides what follows the generic parameters. -/
def declarationKeyword : Reader (Reader DeclarationTail) := do
  if ← optWord "struct" then return g.structTail
  else if ← optWord "enum" then return g.enumTail
  else if ← optWord "union" then return g.unionTail
  else missing ["`struct`", "`enum`", "`union`"]

/-- A declaration of a type. -/
def declaration : Reader Declaration := do
  let attributes ← g.outerAttributes
  let visibility ← visibility
  let keyword ← place
  let tail ← g.declarationKeyword
  let name ← name
  let generics ← g.genericParams
  let tail ← tail
  return ⟨attributes, visibility, keyword, name, { generics with conditions := tail.conditions },
    tail.body⟩

end Overlay.Grammar

namespace Overlay

/-- Reads a declaration that is all of the tokens. -/
def Declaration.ofTrees (trees : List Tree) : Except Fault Declaration :=
  Grammar.readAll (fun g => g.declaration) trees

/-- Reads a type that is all of the tokens. -/
def Ty.ofTrees (trees : List Tree) : Except Fault Ty :=
  Grammar.readAll (fun g => g.typeRule true true) trees

/-- Reads outer attributes that are all of the tokens. -/
def Attribute.listOfTrees (trees : List Tree) : Except Fault (List Attribute) :=
  Grammar.readAll (fun g => g.outerAttributes) trees

/-- Reads a path that is all of the tokens. -/
def Path.ofTrees (trees : List Tree) : Except Fault Path :=
  Grammar.readAll (fun g => g.path false) trees

end Overlay
