import Overlay.Grammar.Declaration
import Overlay.Token.Fragment

/-!
Reading whole texts: a text is split into tokens, its fragments are substituted, and all of the
result has to be of the form that is asked for.
-/

namespace Overlay

/-- A text, together with the fragments that it mentions. -/
structure SourceText where
  text : String
  fragments : Fragments := []

namespace SourceText

/-- The token trees of a text. -/
def trees? (source : SourceText) : Option (List Tree) := do
  source.fragments.substitute (← Lexer.forest? source.text)

/-- Reads all of a text. -/
def read? {α : Type} (source : SourceText) (reader : List Tree → Except Fault α) : Option α := do
  (reader (← source.trees?)).toOption

/-- The declaration that a text consists of. -/
def declaration? (source : SourceText) : Option Declaration := source.read? Declaration.ofTrees

/-- The type that a text consists of. -/
def type? (source : SourceText) : Option Ty := source.read? Ty.ofTrees

/-- The outer attributes that a text consists of. -/
def attributes? (source : SourceText) : Option (List Attribute) :=
  source.read? Attribute.listOfTrees

end SourceText

end Overlay
