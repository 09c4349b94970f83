/-!
Scanners: functions that split a recognised stretch off the front of a text.
-/

namespace Overlay.Lexer

/-- Splits a text into the stretch that is recognised at its front and what follows, or refuses. -/
abbrev Scanner := List Char → Option (List Char × List Char)

namespace Scanner

/-- The accepted stretch gets one more character in front. -/
def cons (c : Char) : Option (List Char × List Char) → Option (List Char × List Char) :=
  Option.map fun (taken, rest) => (c :: taken, rest)

/-- One scanner behind another. -/
def andThen (first second : Scanner) : Scanner := fun cs => do
  let (taken, rest) ← first cs
  let (more, rest) ← second rest
  return (taken ++ more, rest)

/-- A scanner that may also accept nothing. -/
def optional (scanner : Scanner) : Scanner := fun cs =>
  (scanner cs).orElse fun _ => some ([], cs)

/-- Exactly these characters. -/
def exactly (wanted : List Char) : Scanner := fun cs =>
  if wanted.isPrefixOf cs then some (wanted, cs.drop wanted.length) else none

end Scanner

end Overlay.Lexer
