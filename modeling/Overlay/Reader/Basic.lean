import Overlay.Reader.Cursor
import Overlay.Reader.Problem

/-!
Readers: functions that take something off the front of a sequence of token trees, or say what is
wrong there.

Content of brackets that a reader leaves untouched is not an error at once.  It is noted as stray,
and only a reading that is successful otherwise fails because of it.
-/

namespace Overlay

/-- A token that was left over inside of brackets. -/
structure Stray where
  span : Span
  delimiter : Delimiter
deriving Repr

/-- What a reader works on: the trees that are left, the place to name when they run out, the first
stray token so far, and the trees that were taken, last first. -/
structure Input where
  trees : List Tree
  scope : Span
  stray : Option Stray := none
  taken : List Tree := []

/-- The input behind something that was found at its front. -/
def Input.behind {α : Type} (input : Input) (found : Cursor.Found α) : Input :=
  { input with trees := found.rest, taken := found.taken.reverse ++ input.taken }

/-- A reader of values of type `α`. -/
abbrev Reader := StateT Input (Except Fault)

namespace Reader

variable {α β : Type}

/-! ## Looking -/

/-- Tests what is left, and takes nothing. -/
def peek (test : Cursor.Test) : Reader Bool := do
  return test (← get).trees

/-- Nothing is left. -/
def isEmpty : Reader Bool := do
  return (← get).trees.isEmpty

/-- The place of the next token, or the end of the enclosing brackets. -/
def place : Reader Span := do
  let input ← get
  match input.trees with
  | [] => return input.scope
  | t :: _ => return t.headSpan

/-! ## Failing -/

/-- Reports a problem at a given place. -/
def failAt (span : Span) (problem : Problem) : Reader α := throw ⟨problem, span⟩

/-- Reports a problem with the next token; if there is none, the end is mentioned too. -/
def fail (problem : Problem) : Reader α := do
  let input ← get
  match input.trees with
  | [] => throw ⟨.ended problem, input.scope⟩
  | t :: _ => throw ⟨problem, t.headSpan⟩

/-- Reports that something is missing. -/
def missing (alternatives : List String) : Reader α := fail (.expected alternatives)

/-- Refuses what reads well, at the next token. -/
def refuse (reason : String) : Reader α := do failAt (← place) (.refused reason)

/-! ## Taking -/

/-- Takes what `look` finds at the front, or reports what is missing. -/
def take (what : String) (look : List Tree → Option (Cursor.Found α)) : Reader α := do
  let input ← get
  match look input.trees with
  | some found =>
    set (input.behind found)
    return found.value
  | none => missing [what]

/-- A keyword. -/
def word (word : String) : Reader Unit := do
  if ← peek (Cursor.hasWord word) then
    discard <| take word Cursor.ident?
  else missing ["`" ++ word ++ "`"]

/-- A sign.  Its absence is reported in the same words when nothing is left. -/
def sign (text : String) : Reader Unit := do
  let input ← get
  match Cursor.sign? text.toList input.trees with
  | some found => set (input.behind found)
  | none => failAt (← place) (.expected ["`" ++ text ++ "`"])

/-- Any identifier, keywords included. -/
def anyIdent : Reader Ident := take "ident" Cursor.ident?

/-- An identifier that may name something. -/
def name : Reader Ident := do
  let input ← get
  match Cursor.ident? input.trees with
  | some found =>
    if Cursor.isName found.value then
      set (input.behind found)
      return found.value
    else fail (.keyword found.value.name)
  | none => missing ["identifier"]

/-- A lifetime. -/
def lifetime : Reader Ident := take "lifetime" Cursor.lifetime?

/-- A keyword, if it stands here. -/
def optWord (w : String) : Reader Bool := do
  if ← peek (Cursor.hasWord w) then
    word w
    return true
  else return false

/-- A sign, if it stands here. -/
def optSign (text : String) : Reader Bool := do
  if ← peek (Cursor.hasSign text) then
    sign text
    return true
  else return false

/-- The first token of a sequence that is left over, invisible groups without content apart. -/
def strayIn (delimiter : Delimiter) (trees : List Tree) : Option Stray :=
  (Cursor.visible? trees).map fun t => ⟨t.span, delimiter⟩

/-- How brackets are called when they are missing. -/
def bracketsName : Delimiter → String
  | .parenthesis => "parentheses"
  | .brace => "curly braces"
  | .bracket => "square brackets"
  | .invisible => "invisible group"

/-- Reads the content of brackets with a reader of its own, and then what follows them.  What is
left over inside is noted as stray, once what follows has been read. -/
def withinThen (delimiter : Delimiter) (content : Reader α) (after : α → Reader β) : Reader β := do
  let outer ← get
  match Cursor.group? delimiter outer.trees with
  | none => missing [bracketsName delimiter]
  | some found =>
    set ({ outer with trees := found.value.1, scope := found.value.2 } : Input)
    let a ← content
    let inner ← get
    set { outer.behind found with stray := inner.stray }
    let b ← after a
    modify fun input => { input with stray := input.stray.or (strayIn delimiter inner.trees) }
    return b

/-- Reads the content of brackets with a reader of its own.  What that reader leaves over is noted
as stray. -/
def within (delimiter : Delimiter) (content : Reader α) : Reader α :=
  withinThen delimiter content pure

/-- Everything up to the end of the brackets, unread. -/
def remaining : Reader (List Tree) := do
  let input ← get
  set { input with trees := [], taken := input.trees.reverse ++ input.taken }
  return input.trees

/-- Runs a reader and answers also with the trees that it takes. -/
def recorded (reader : Reader α) : Reader (α × List Tree) := do
  let outer ← get
  set { outer with taken := [] }
  let a ← reader
  let inner ← get
  set { inner with taken := inner.taken ++ outer.taken }
  return (a, inner.taken.reverse)

/-- Runs a reader and takes nothing. -/
def ahead (reader : Reader α) : Reader α := do
  let input ← get
  let a ← reader
  set input
  return a

/-- Runs a reader; if it fails, nothing has been taken. -/
def attempt (reader : Reader α) : Reader (Option α) := fun input =>
  match reader input with
  | .ok (a, rest) => .ok (some a, rest)
  | .error _ => .ok (none, input)

/-- Repeats a step that says whether to go on, at most so many times. -/
def iterate (step : β → Reader (β ⊕ α)) : Nat → β → Reader α
  | 0, _ => fail .tooDeep
  | fuel + 1, b => do
    match ← step b with
    | .inl next => iterate step fuel next
    | .inr a => return a

/-- Repeats a step that says whether to go on.  A step that goes on has taken something, so the
number of tokens that are left bounds the repetitions. -/
def repeatFrom (b : β) (step : β → Reader (β ⊕ α)) : Reader α := do
  iterate step (Tree.sizeOf (← get).trees + 1) b

/-- Items up to the end of the brackets, each but the last followed by a comma; whether the last is
followed by one, too. -/
def terminated (item : Reader α) : Reader (List α × Bool) :=
  repeatFrom (([] : List α), false) fun (done, comma) => do
    if ← isEmpty then return .inr (done.reverse, comma)
    let next ← item
    if ← isEmpty then return .inr ((next :: done).reverse, false)
    sign ","
    return .inl (next :: done, true)

/-! ## Reading everything -/

/-- Runs a reader on all of the trees: nothing may be stray or left over. -/
def complete (reader : Reader α) (trees : List Tree) (scope : Span) : Except Fault α := do
  let (a, input) ← reader ⟨trees, scope, none, []⟩
  match input.stray.or (strayIn .invisible input.trees) with
  | some stray => throw ⟨.leftover stray.delimiter, stray.span⟩
  | none => return a

end Reader

end Overlay
