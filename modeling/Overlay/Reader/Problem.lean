import Overlay.Token.Tree

/-!
What can be wrong with a sequence of tokens, where, and how that is said.
-/

namespace Overlay

/-- Why tokens could not be read. -/
inductive Problem where
  /-- The text has no tokens: it is malformed below the level of grammar. -/
  | unlexable
  /-- None of these alternatives stands here. -/
  | expected (alternatives : List String)
  /-- A keyword stands where a name is wanted. -/
  | keyword (word : String)
  /-- The tokens ended where the inner problem was noticed. -/
  | ended (problem : Problem)
  /-- Something is left over, in brackets of this kind. -/
  | leftover (delimiter : Delimiter)
  /-- The tokens read well, but together they are refused, for this reason. -/
  | refused (reason : String)
  /-- The nesting is deeper than the reader was prepared for. -/
  | tooDeep
deriving Repr, Inhabited

namespace Problem

/-- Several alternatives, as they are listed in a message. -/
def listing : List String → String
  | [] => "unexpected token"
  | [one] => "expected " ++ one
  | [one, other] => "expected " ++ one ++ " or " ++ other
  | all => "expected one of: " ++ String.intercalate ", " all

/-- The wording of a problem. -/
def message : Problem → String
  | unlexable => "cannot parse string into token stream"
  | expected alternatives => listing alternatives
  | keyword word => "expected identifier, found keyword `" ++ word ++ "`"
  | ended problem => "unexpected end of input, " ++ problem.message
  | leftover .parenthesis => "unexpected token, expected `)`"
  | leftover .brace => "unexpected token, expected `\x7d`"
  | leftover .bracket => "unexpected token, expected `]`"
  | leftover .invisible => "unexpected token"
  | refused reason => reason
  | tooDeep => "nesting too deep"

end Problem

/-- A problem and the place that it is reported at. -/
structure Fault where
  problem : Problem
  span : Span
deriving Repr, Inhabited

end Overlay
