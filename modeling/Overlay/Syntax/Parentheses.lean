import Overlay.Syntax.Expr

/-!
How expressions are written: where a part of one would be read as something else, parentheses are
put around it.

A context says what stands around an expression.  Whether a part needs parentheses depends on how
tightly it holds together in its context; that in turn depends on whether an operator behind the
part would be read as belonging to the part's own tail.  The code of an expression is its code in
the context of nothing around it.
-/

namespace Overlay

/-- What stands around an expression. -/
structure Context where
  /-- How tightly the operator in front binds. -/
  previous : Precedence := .jump
  /-- How tightly the operator behind binds. -/
  next : Precedence := .jump
  /-- The expression is a statement. -/
  statement : Bool := false
  /-- The expression is at the front of a statement that goes on. -/
  opensStatement : Bool := false
  /-- The expression is the body of an arm of a match. -/
  arm : Bool := false
  /-- The expression is at the front of the body of an arm, which goes on. -/
  opensArm : Bool := false
  /-- A brace behind the expression would be taken for that of a struct literal. -/
  condition : Bool := false
  /-- The expression is at the end of a condition. -/
  closesCondition : Bool := false
  /-- The expression is at the front of an operand that may be left out in a condition. -/
  opensOptional : Bool := false
  /-- An expression may begin with what follows. -/
  beginsExpr : Bool := false
  /-- What follows continues an expression. -/
  continues : Bool := false
  /-- Behind a path, what follows would begin generic arguments. -/
  beginsArgs : Bool := false

namespace Context

/-- Nothing stands around the expression. -/
def free : Context := {}

/-- The expression is a statement. -/
def ofStatement : Context := { statement := true }

/-- The expression is the body of an arm of a match. -/
def ofArm : Context := { arm := true }

/-- The expression is a condition, or stands in front of a block like one. -/
def ofCondition : Context := { condition := true, closesCondition := true }

/-- The context of the first part of an expression, in front of an operator. -/
def left (c : Context) (beginsExpr beginsArgs : Bool) (precedence : Precedence) : Context :=
  { c with
    next := precedence
    statement := false
    opensStatement := c.statement || c.opensStatement
    arm := false
    opensArm := c.arm || c.opensArm
    closesCondition := false
    beginsExpr
    continues := true
    beginsArgs }

/-- The context of the first part of an expression, in front of a dot or a question mark.  These do
not let a statement end. -/
def dotted (c : Context) : Context :=
  { c with
    next := .primary
    statement := c.statement || c.opensStatement
    opensStatement := false
    arm := c.arm || c.opensArm
    opensArm := false
    closesCondition := false
    beginsExpr := false
    continues := true
    beginsArgs := false }

/-- The context of the last part of an expression; `record` says whether struct literals may stand
there again, `optional` whether the part may be left out. -/
def right (c : Context) (record optional : Bool) (precedence : Precedence) : Context :=
  { c with
    previous := precedence
    statement := false
    opensStatement := false
    arm := false
    opensArm := false
    condition := c.condition && !record
    opensOptional := c.condition && optional }

/-- A jump without value may not stand in front of the block of a condition, nor a `break` where
struct literals are allowed again. -/
def enclosesJump (c : Context) : Jump → Bool
  | .exit _ => c.closesCondition && !c.condition
  | .ret | .yield => c.closesCondition

/-- Would a statement or a condition end too early, were it not for parentheses around the
expression? -/
def encloses (c : Context) (e : Expr) : Bool :=
  (c.opensStatement && e.endsStatement)
    || ((c.statement || c.opensStatement) && e.isBinding)
    || (c.opensArm && e.endsArm)
    || (c.condition && e.isRecord)
    || e.bareJump?.any c.enclosesJump
    || (c.closesCondition && !c.condition && (e.isPath || e.isUnended))
    || (c.opensOptional && e.isPlainBlock)

/-- How tightly an expression holds together in its context. -/
def precedenceOf (c : Context) (e : Expr) : Precedence :=
  if c.beginsExpr && e.bareJump?.isSome then .jump
  else if !c.continues && e.reachesRight then .sign
  else if c.beginsArgs && e.castsToName then .jump
  else e.precedence

end Context

/-- A label at the front of the value would be taken for that of the `break` in front of it. -/
def Jump.hides (j : Jump) (value : Expr) : Bool :=
  match j with
  | .exit none => value.beginsWithLabel
  | _ => false

/-! ## What becomes of an operator behind an expression -/

/-- What becomes of an operator behind an expression. -/
inductive Scan where
  /-- It cannot follow the expression's last part. -/
  | fail
  /-- It is left to what stands around the expression. -/
  | bailout
  /-- It is taken for a continuation of the expression's last part. -/
  | consume
deriving DecidableEq, Repr

namespace Context

/-- What becomes of the operator behind, by precedence alone. -/
def consumption (c : Context) (precedence : Precedence) : Scan :=
  if (match precedence with
      | .assign | .compare => precedence ≤ c.next
      | _ => precedence < c.next) || c.next = .jump then .consume
  else .bailout

/-- What becomes of the operator behind a part: parentheses around the part leave it to
precedence. -/
def scanned (c : Context) (e : Expr) (precedence : Precedence) (inside : Unit → Scan) : Scan :=
  if c.encloses e then c.consumption precedence else inside ()

/-- What becomes of an operator that the last part of an expression cannot take.  A dot or a bracket
cannot be left to what stands around. -/
def unreached (c : Context) : Scan := if c.next = .primary then .fail else .bailout

/-- What becomes of the operator behind an expression without open parts. -/
def scannedLeaf (c : Context) (precedence : Precedence) : Scan :=
  if (c.next = .assign || c.next = .range) && precedence = .range then .fail
  else if precedence = .binding && c.next < .binding then .fail
  else c.consumption precedence

end Context

namespace Expr

/-- May the expression follow the operator in front of it? -/
def followsPrevious (e : Expr) (c : Context) : Bool :=
  match e with
  | assign _ _ => c.previous ≤ .assign
  | binary _ op _ =>
    if op.precedence = .assign then c.previous ≤ .assign else c.previous < op.precedence
  | cast _ _ => c.previous < .cast
  | rangeFrom _ _ | range _ _ _ => c.previous < .assign
  | attributed _ inner => inner.followsPrevious c
  | _ => true

/-- How tightly the last part of an expression holds together in its context: a part whose tail
leaves the operator behind it alone holds as tightly as one behind a sign.  `scan` says what becomes
of that operator. -/
def rightPrecedence (c : Context) (e : Expr) (scan : Unit → Scan) : Precedence :=
  let default := c.precedenceOf e
  let loose := match c.previous with
    | .assign | .binding | .sign => default < c.previous
    | _ => default ≤ c.previous
  let separable := match c.next with
    | .range | .or | .and => true
    | _ => !c.beginsExpr
  if loose && separable && scan () ≠ .consume && e.followsPrevious c then .sign else default

/-- What becomes of the operator behind the last part of an expression, in front of which stands an
operator of the given precedence.  `settled` says that the operator counts as taken even if it is
left alone, so that there is nothing to look for. -/
def scan : Expr → Context → Precedence → (settled : Bool) → Scan
  | leaf .closure _, _, _, _ => .consume
  | leaf _ _, c, p, _ | group _, c, p, _ | cast _ _, c, p, _ | applied _ _, c, p, _
  | dotted _ _, c, p, _ => c.scannedLeaf p
  | attributed _ inner, c, p, settled =>
    match inner with
    | assign _ _ | binary _ _ _ | fullRange _ | rangeFrom _ _ | rangeTo _ _ | range _ _ _ =>
      c.scannedLeaf p
    | inner => inner.scan c p settled
  | assign _ right, c, _, settled =>
    if settled && c.next ≠ .primary then .consume
    else
      let last := c.right false false .assign
      match last.scanned right .assign fun _ => right.scan last .assign true with
      | .fail => c.unreached
      | _ => .consume
  | binary _ op right, c, p, settled =>
    if settled && c.next ≠ .primary then .consume
    else if op.precedence = .compare && c.next = .compare then .consume
    else
      let last := c.right false false op.precedence
      match last.scanned right op.precedence fun _ =>
          right.scan last op.precedence (c.consumption p = .consume) with
      | .bailout => c.consumption p
      | .consume => .consume
      | .fail =>
        if op.precedence ≠ .assign && rightPrecedence last right (fun _ => .fail) ≤ op.precedence
        then c.consumption p
        else c.unreached
  | signed _ operand, c, p, settled =>
    if settled && c.next ≠ .primary then .consume
    else
      let last := c.right false false .sign
      match last.scanned operand p fun _ => operand.scan last p (c.consumption p = .consume) with
      | .bailout => c.consumption p
      | .consume => .consume
      | .fail =>
        let again := fun _ => if operand.isRange then .fail
          else last.scanned operand .sign fun _ => operand.scan last .sign false
        if rightPrecedence last operand again < .sign then c.consumption p else c.unreached
  | fullRange _, c, _, _ | rangeFrom _ _, c, _, _ =>
    if c.next = .range && c.beginsExpr then .consume else .fail
  | rangeTo _ stop, c, _, _ | range _ _ stop, c, _, _ =>
    let last := c.right false true .range
    let separate := c.next = .assign || c.next = .range
    match last.scanned stop .range fun _ => stop.scan last .range !separate with
    | .consume => .consume
    | .bailout =>
      if separate && .range < rightPrecedence last stop (fun _ => .bailout) then .fail else .consume
    | .fail => if .range < rightPrecedence last stop (fun _ => .fail) then .fail else .consume
  | jump _, c, p, _ => if c.next = .assign && .assign < p then .fail else .consume
  | jumpWith j value, c, _, settled =>
    if settled || j.hides value then .consume
    else
      let last := c.right true j.isExit .jump
      match last.scanned value .jump fun _ => value.scan last .jump true with
      | .fail => .bailout
      | _ => .consume
  | closure _ body, c, _, settled =>
    if settled then .consume
    else
      let last := c.right false false .jump
      match last.scanned body .jump fun _ => body.scan last .jump true with
      | .fail => .bailout
      | _ => .consume
  | binding _ value, c, _, settled =>
    if settled then .consume
    else
      let last := c.right false false .binding
      match last.scanned value .binding fun _ => value.scan last .binding !(c.next < .binding) with
      | .consume => .consume
      | .bailout => if c.next < .binding then .bailout else .consume
      | .fail =>
        if c.next < .binding || .binding ≤ rightPrecedence last value (fun _ => .fail) then .bailout
        else .consume

/-- How tightly the first part of an expression holds together in its context: a part whose tail
leaves the operator behind it alone holds as tightly as any. -/
def leftPrecedence (c : Context) (e : Expr) : Precedence :=
  if (!c.beginsExpr || c.next = .range)
      && c.scanned e .jump (fun _ => e.scan c .jump false) = .bailout && e.followsPrevious c then
    .primary
  else c.precedenceOf e

/-- How tightly the last part of an expression holds together in its context. -/
def lastPrecedence (c : Context) (e : Expr) : Precedence :=
  rightPrecedence c e fun _ => c.scanned e c.previous fun _ => e.scan c c.previous false

/-! ## The code of expressions -/

/-- Code in parentheses. -/
def parenthesized (code : Code) : Code := [.group .parenthesis code]

/-- A part of an expression, with parentheses where it needs them or where its context asks for
some. -/
def placed (needed : Bool) (c : Context) (e : Expr) (body : Context → Code) : Code :=
  if needed || c.encloses e then parenthesized (body .free) else body c

/-- The code of an expression that its context does not ask to enclose. -/
def bodyIn : Expr → Context → Code
  | leaf _ code, _ => code
  | group inner, _ => [.group .invisible (placed false .free inner inner.bodyIn)]
  | attributed attrs inner, c =>
    attrs ++ if inner.isOperation then parenthesized (inner.bodyIn .free) else inner.bodyIn c
  | assign left right, c =>
    let first := c.left false false .assign
    placed (leftPrecedence first left ≤ .range) first left left.bodyIn ++ .punct '='
      :: placed false (c.right false false .assign) right right.bodyIn
  | binary left op right, c =>
    let first := c.left op.beginsExpr op.beginsArgs op.precedence
    let held := leftPrecedence first left
    let loose := match op.precedence with
      | .assign => held ≤ .range
      | .compare => held ≤ op.precedence
      | _ => held < op.precedence
    let last := c.right false false op.precedence
    placed loose first left left.bodyIn ++ Token.sign op.text.toList
      ++ placed (op.precedence ≠ .assign && lastPrecedence last right ≤ op.precedence) last right
        right.bodyIn
  | cast value ty, c =>
    let first := c.left false false .cast
    placed (leftPrecedence first value < .cast) first value value.bodyIn ++ .word "as" :: ty.code
  | fullRange dots, _ => dots
  | rangeFrom start dots, c =>
    let first := c.left true false .range
    placed (leftPrecedence first start ≤ .range) first start start.bodyIn ++ dots
  | rangeTo dots stop, c =>
    let last := c.right false true .range
    dots ++ placed (lastPrecedence last stop ≤ .range) last stop stop.bodyIn
  | range start dots stop, c =>
    let first := c.left true false .range
    let last := c.right false true .range
    placed (leftPrecedence first start ≤ .range) first start start.bodyIn ++ dots
      ++ placed (lastPrecedence last stop ≤ .range) last stop stop.bodyIn
  | signed marks operand, c =>
    let last := c.right false false .sign
    marks ++ placed (lastPrecedence last operand < .sign) last operand operand.bodyIn
  | applied base brackets, c =>
    let first := c.left true false .primary
    placed (leftPrecedence first base < .primary) first base base.bodyIn ++ [brackets]
  | dotted base tail, c =>
    let first := c.dotted
    placed (leftPrecedence first base < .primary) first base base.bodyIn ++ tail
  | closure head body, c => head ++ placed false (c.right false false .jump) body body.bodyIn
  | binding head value, c =>
    let last := c.right false false .binding
    head ++ placed (lastPrecedence last value < .binding) last value value.bodyIn
  | jump j, _ => j.code
  | jumpWith j value, c =>
    j.code ++ placed (j.hides value) (c.right true j.isExit .jump) value value.bodyIn

/-- The code of an expression in its context. -/
def codeIn (c : Context) (e : Expr) : Code := placed false c e e.bodyIn

/-- The code of an expression by itself. -/
def code (e : Expr) : Code := e.codeIn .free

end Expr

end Overlay
