import Overlay.Grammar.Statement

/-!
The grammar itself: its rules refer to themselves, one level of nesting further down.

Between two levels at least one token is taken, but for a few steps that take none.  A depth of a
small multiple of the number of tokens is therefore never exhausted.
-/

namespace Overlay.Grammar

/-- The grammar for input that is nested so deep. -/
def atDepth : Nat → Grammar
  | 0 =>
    { ty := fun _ _ => Reader.fail .tooDeep
      bound := fun _ _ => Reader.fail .tooDeep
      binder := Reader.fail .tooDeep
      expr := fun _ => Reader.fail .tooDeep
      unary := fun _ => Reader.fail .tooDeep
      climb := fun _ _ _ => Reader.fail .tooDeep
      early := Reader.fail .tooDeep
      statements := Reader.fail .tooDeep
      pattern := fun _ => Reader.fail .tooDeep
      fields := Reader.fail .tooDeep
      item := Reader.fail .tooDeep
      useTree := fun _ => Reader.fail .tooDeep }
  | depth + 1 =>
    { ty := fun plus groupArgs => (atDepth depth).typeRule plus groupArgs
      bound := fun capture const => (atDepth depth).boundRule capture const
      binder := fun input => (atDepth depth).binderRule input
      expr := fun struct => (atDepth depth).exprRule struct
      unary := fun struct => (atDepth depth).unaryRule struct
      climb := fun first struct base => (atDepth depth).climbRule first struct base
      early := fun input => (atDepth depth).earlyRule input
      statements := fun input => (atDepth depth).statementsRule input
      pattern := fun alternatives => (atDepth depth).patternRule alternatives
      fields := fun input => (atDepth depth).fieldsRule input
      item := fun input => (atDepth depth).itemRule input
      useTree := fun rooted => (atDepth depth).useTreeRule rooted }

/-- A grammar that is deep enough for these trees. -/
def deepEnough (trees : List Tree) : Grammar := atDepth (4 * Tree.sizeOf trees + 16)

/-- Reads all of the trees by a rule of the grammar. -/
def readAll {α : Type} (rule : Grammar → Reader α) (trees : List Tree) : Except Fault α :=
  Reader.complete (rule (deepEnough trees)) trees default

end Overlay.Grammar
