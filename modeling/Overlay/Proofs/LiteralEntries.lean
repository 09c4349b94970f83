import Overlay.Derive.Implementation
import Overlay.Proofs.ReaderRules

/-!
The entries of generated record literals, read by the grammar.

The generator writes an entry such as `a: from.a.take().or(self.a.take())`, and what it writes has
to be a field of a struct literal.  Which label a field can have is said by `Ident.isLabel`; the
rule that reads fields of struct literals is `Grammar.fieldValue`, which knows nothing of generated
code.  Here the two are compared.

1. **Data**: any trees whose tokens are those of the entry (`Tree.codeOf trees = entry.code`), at
   any places.
2. **Execution**: `Reader.Runs` follows a reader over trees that are known token by token.  A step
   on known tokens is an evaluation; only where the label stands is there something to argue.
3. **Result**: with a label, the entry is read to its end and printed as it was
   (`Entry.merged_accepted`, `Entry.marker_accepted`); without one, no reading succeeds
   (`Entry.refused_of_not_isLabel`).
-/

namespace Overlay

/-! ## Trees of given tokens -/

namespace Tree

theorem eq_nil_of_codeOf {trees : List Tree} (h : codeOf trees = []) : trees = [] := by
  cases trees with
  | nil => rfl
  | cons t ts => nomatch h

theorem eq_leaf_of_codeOf {trees : List Tree} {a : Atom} {code : Code}
    (h : codeOf trees = .atom a :: code) :
    ∃ s ts, trees = .leaf a s :: ts ∧ codeOf ts = code := by
  cases trees with
  | nil => nomatch h
  | cons t ts =>
    obtain ⟨hToken, hCode⟩ := List.cons.inj h
    cases t with
    | leaf b s =>
      cases hToken
      exact ⟨s, ts, rfl, hCode⟩
    | group d content opening closing => nomatch hToken

theorem eq_group_of_codeOf {trees : List Tree} {d : Delimiter} {content code : Code}
    (h : codeOf trees = .group d content :: code) :
    ∃ inside opening closing ts, trees = .group d inside opening closing :: ts ∧
      codeOf inside = content ∧ codeOf ts = code := by
  cases trees with
  | nil => nomatch h
  | cons t ts =>
    obtain ⟨hToken, hCode⟩ := List.cons.inj h
    cases t with
    | leaf b s => nomatch hToken
    | group d inside opening closing =>
      cases hToken
      exact ⟨inside, opening, closing, ts, rfl, rfl, hCode⟩

theorem length_le_sizeOf (trees : List Tree) : trees.length ≤ sizeOf trees := by
  induction trees with
  | nil => exact Nat.le_refl 0
  | cons t ts ih =>
    have hSize : 1 ≤ t.size := by
      cases t with
      | leaf a s => exact Nat.le_refl 1
      | group d content opening closing => exact Nat.le_add_right 1 _
    rw [List.length_cons, sizeOf]
    omega

end Tree

/-! ## Following a reader over known trees -/

/-- The input consists of these trees, and nothing is stray so far. -/
structure Input.Is (input : Input) (trees : List Tree) : Prop where
  trees_eq : input.trees = trees
  stray_eq : input.stray = none

namespace Reader

variable {α β : Type}

/-- The reader takes the trees `before` to the trees `after`, and gives `a`. -/
abbrev Runs (reader : Reader α) (before : List Tree) (a : α) (after : List Tree) : Prop :=
  Reads (·.Is before) reader a (·.Is after)

namespace Runs

variable {ts ms us : List Tree} {a : α} {b : β}

/-- Where the first tokens are known, running a reader is evaluating it. -/
theorem of_eq {reader : Reader α}
    (h : ∀ scope taken, ∃ taken', reader ⟨ts, scope, none, taken⟩
      = .ok (a, ⟨us, scope, none, taken'⟩)) :
    Runs reader ts a us := by
  rintro ⟨_, scope, _, taken⟩ ⟨rfl, rfl⟩
  obtain ⟨taken', hRun⟩ := h scope taken
  exact ⟨_, hRun, rfl, rfl⟩

theorem peek {test : Cursor.Test} {answer : Bool} (h : test ts = answer) :
    Runs (peek test) ts answer ts := by
  refine Reads.peek fun input hInput => ?_
  rw [hInput.trees_eq, h]

theorem bind_get {next : Input → Reader β}
    (h : ∀ input : Input, input.trees = ts → Runs (next input) ts b us) :
    Runs (get >>= next) ts b us :=
  fun input hInput => h input hInput.trees_eq input hInput

theorem parentheses {content : Reader α} {opening closing : Span} (h : Runs content ts a []) :
    Runs (within .parenthesis content) (.group .parenthesis ts opening closing :: us) a us := by
  rintro ⟨_, scope, _, taken⟩ ⟨rfl, rfl⟩
  obtain ⟨inner, hInner, hTrees, hStray⟩ := h ⟨ts, closing, none, taken⟩ ⟨rfl, rfl⟩
  refine ⟨_, within_of_group rfl hInner, rfl, ?_⟩
  show inner.stray.or (strayIn .parenthesis inner.trees) = none
  rw [hTrees, hStray]
  rfl

theorem name {name : Ident} (h : Cursor.isName name = true) (s : Span) (us : List Tree) :
    Runs Reader.name (.leaf (.ident name) s :: us) name us := by
  refine of_eq fun scope taken => ⟨.leaf (.ident name) s :: taken, ?_⟩
  show (if Cursor.isName name = true then _ else _ : Reader Ident) _ = _
  rw [if_pos h]
  rfl

/-- The number of trees bounds the repetitions. -/
theorem repeatFrom {step : β → Reader (β ⊕ α)} {state : β}
    (h : ∀ fuel, ts.length < fuel → Runs (iterate step fuel state) ts a us) :
    Runs (repeatFrom state step) ts a us := by
  refine Reads.repeatFrom (fun input hInput => ?_) h
  rw [← hInput.trees_eq]
  exact Tree.length_le_sizeOf input.trees

theorem complete {reader : Reader α} (h : Runs reader ts a []) (scope : Span) :
    complete reader ts scope = .ok a :=
  Reads.complete ⟨rfl, rfl⟩ (fun _ hEnd => ⟨hEnd.trees_eq, hEnd.stray_eq⟩) h

end Runs

end Reader

namespace Grammar

open Reader Cursor

/-! ## Labels and fields -/

/-- A name that may name something is no keyword. -/
theorem hasWord_eq_false {name : Ident} (h : isName name = true) {word : String}
    (hWord : word ∈ keywords) (s : Span) (us : List Tree) :
    hasWord word (.leaf (.ident name) s :: us) = false := by
  refine decide_eq_false fun hName => ?_
  rw [show name = ⟨word, false⟩ from hName] at h
  simp [isName, hWord] at h

/-- No identifier is a number: of the words, only `true` and `false` are literals. -/
theorem no_number (name : Ident) (s : Span) (us : List Tree) :
    hasFloat (.leaf (.ident name) s :: us) = false
      ∧ hasInteger (.leaf (.ident name) s :: us) = false := by
  have hLiteral : signedLiteral? (.leaf (.ident name) s :: us) =
      if name = ⟨"true", false⟩ ∨ name = ⟨"false", false⟩ then
        some ⟨name.name, [.leaf (.ident name) s], us⟩
      else none := rfl
  rw [hasFloat, hasInteger, hLiteral]
  by_cases hName : name = ⟨"true", false⟩ ∨ name = ⟨"false", false⟩
  · rw [if_pos hName]
    rcases hName with rfl | rfl
    · show Text.isFloat (unsigned "true") = false ∧ (Text.integer? (unsigned "true")).isSome = false
      decide
    · show Text.isFloat (unsigned "false") = false
        ∧ (Text.integer? (unsigned "false")).isSome = false
      decide
  · rw [if_neg hName]
    exact ⟨rfl, rfl⟩

theorem member_runs {name : Ident} (h : isName name = true) (s : Span) (us : List Tree) :
    Runs member (.leaf (.ident name) s :: us) (.name name) us :=
  .bind (Runs.peek h) (.bind (Runs.name h s us) (.pure _))

/-- What is no name is no number either, so that no member of a struct is read from it. -/
theorem member_ne_ok {name : Ident} (h : isName name = false) {s : Span} {us : List Tree}
    {input : Input} (hInput : input.trees = .leaf (.ident name) s :: us) (field : FieldRef)
    (next : Input) :
    member input ≠ .ok (field, next) := by
  intro hMember
  -- neither of the two questions that `member` asks is answered with yes
  obtain ⟨named, _, hPeek, hRest⟩ := bind_eq_ok hMember
  cases hPeek
  have hNamed : hasName input.trees = false := by
    rw [hInput]
    exact h
  rw [hNamed] at hRest
  obtain ⟨numbered, _, hPeek, hRest⟩ := bind_eq_ok hRest
  cases hPeek
  rw [hInput, (no_number name s us).2] at hRest
  have hNothing : Gives (missing ["identifier or integer"] : Reader FieldRef) fun _ => False :=
    .missing _
  exact hNothing _ _ _ hRest

variable (g : Grammar)

/-! ## What follows an expression -/

/-- A dot behind an expression that is no range, and what follows the dot. -/
theorem trailer_dotted {e e' : Expr} (he : e.isRange = false) {name : Ident} (s s' : Span)
    {us vs : List Tree} (h : Runs (g.afterDot e) (.leaf (.ident name) s' :: us) e' vs) :
    Runs (g.trailer e) (.leaf (.punct '.' .alone) s :: .leaf (.ident name) s' :: us)
      (.inl e') vs := by
  refine .bind (a := false) (Runs.peek rfl) (.bind (a := true) (Runs.peek rfl) ?_)
  rw [he]
  refine .bind (Runs.of_eq fun _ _ => ⟨_, rfl⟩) (.bind ?_ (.pure _))
  exact .bind (a := false) (Runs.peek (no_number name s' us).1) h

theorem await_runs {name : Ident} (h : isName name = true) (s : Span) (us : List Tree) :
    Runs (optWord "await") (.leaf (.ident name) s :: us) false (.leaf (.ident name) s :: us) :=
  .bind (a := false) (Runs.peek (hasWord_eq_false h (by decide) s us)) (.pure _)

theorem afterDot_field {name : Ident} (h : isName name = true) (e : Expr) (s s' : Span)
    (us : List Tree) :
    Runs (g.afterDot e) (.leaf (.ident name) s :: .leaf (.punct '.' .alone) s' :: us)
      (.dotted e [.punct '.', .ident name]) (.leaf (.punct '.' .alone) s' :: us) := by
  refine .bind (await_runs h s _)
    (.bind (member_runs h s _) (.bind (a := false) (Runs.peek rfl) ?_))
  exact .bind (a := false) (Runs.peek rfl) (.pure _)

theorem afterDot_call {word : String} (h : isName ⟨word, false⟩ = true) (e : Expr)
    (s opening closing : Span) {content us : List Tree} {code : Code}
    (hContent : Runs g.exprList content code []) :
    Runs (g.afterDot e)
      (.leaf (.ident ⟨word, false⟩) s :: .group .parenthesis content opening closing :: us)
      (.dotted e [.punct '.', .word word, .group .parenthesis code]) us := by
  refine .bind (await_runs h s _)
    (.bind (member_runs h s _) (.bind (a := false) (Runs.peek rfl) ?_))
  exact .bind (a := true) (Runs.peek rfl) (.bind (Runs.parentheses hContent) (.pure _))

theorem trailer_end (base : Expr) (tail : Code) :
    Runs (g.trailer (.dotted base tail)) [] (.inr (.dotted base tail)) [] :=
  Runs.of_eq fun _ _ => ⟨_, rfl⟩

/-! ## Whole expressions -/

/-- The word that a parameter of a method is. -/
def sourceWord : Source → Ident
  | .receiver => ⟨"self", false⟩
  | .override => ⟨"from", false⟩

/-- The parameter of a method, as an expression. -/
def sourceExpr (source : Source) : Expr :=
  .leaf (.path none (.ofNames false [sourceWord source])) source.code

/-- Taking a field out of a parameter, as an expression. -/
def takeExpr (source : Source) (field : Ident) : Expr :=
  .dotted (.dotted (sourceExpr source) [.punct '.', .ident field])
    [.punct '.', .word "take", .group .parenthesis []]

/-- In front of a dot, the parameter of a method is a path, and the signs that may stand in front of
an expression are missing. -/
theorem signedExpr_runs (source : Source) (s s' : Span) {us vs : List Tree} {e : Expr}
    (h : Runs (g.trailers (sourceExpr source)) (.leaf (.punct '.' .alone) s' :: us) e vs) :
    Runs (g.signedExpr true)
      (.leaf (.ident (sourceWord source)) s :: .leaf (.punct '.' .alone) s' :: us) e vs := by
  have hAtom : Runs (g.atomExpr true)
      (.leaf (.ident (sourceWord source)) s :: .leaf (.punct '.' .alone) s' :: us)
      (sourceExpr source) (.leaf (.punct '.' .alone) s' :: us) := by
    cases source with
    | receiver => exact Runs.of_eq fun _ _ => ⟨_, rfl⟩
    | override => exact Runs.of_eq fun _ _ => ⟨_, rfl⟩
  refine .bind (a := false) (Runs.peek rfl) (.bind (a := false) (Runs.peek rfl) ?_)
  refine Runs.bind_get fun input hTrees => ?_
  rw [hTrees]
  exact .bind hAtom h

/-- Behind its attributes, of which there are none, an expression that ends with a call is as it was
read. -/
theorem unaryRule_runs (source : Source) (s : Span) {us vs : List Tree} {base : Expr} {tail : Code}
    (h : Runs (g.signedExpr true) (.leaf (.ident (sourceWord source)) s :: us)
      (.dotted base tail) vs) :
    Runs (g.unaryRule true) (.leaf (.ident (sourceWord source)) s :: us)
      (.dotted base tail) vs := by
  have hAttributes : Runs g.exprAttributes (.leaf (.ident (sourceWord source)) s :: us) []
      (.leaf (.ident (sourceWord source)) s :: us) := Runs.of_eq fun _ _ => ⟨_, rfl⟩
  exact .bind_recorded (fun _ _ h => ⟨h.1, h.2⟩) (fun _ _ h => ⟨h.1, h.2⟩)
    (.bind hAttributes (.bind h (.pure _))) fun _ => .pure _

/-- An expression that begins with a parameter of a method and ends with a call: nothing stands in
front of it, and no operator behind it. -/
theorem expr_runs (depth : Nat) (source : Source) (s s' : Span) {us : List Tree} {base : Expr}
    {tail : Code}
    (h : Runs ((atDepth depth).trailers (sourceExpr source)) (.leaf (.punct '.' .alone) s' :: us)
      (.dotted base tail) []) :
    Runs ((atDepth (depth + 1)).expr true)
      (.leaf (.ident (sourceWord source)) s :: .leaf (.punct '.' .alone) s' :: us)
      (.dotted base tail) [] := by
  have hClimb : Runs ((atDepth depth).climbRule (.dotted base tail) true .jump) []
      (.dotted base tail) [] :=
    Runs.of_eq fun _ _ => ⟨_, rfl⟩
  exact .bind (unaryRule_runs _ source s (signedExpr_runs _ source s s' h)) hClimb

/-- The trees of a field that is taken out of a parameter, behind the parameter and in front of
`us`. -/
inductive TakesField (field : Ident) (us : List Tree) : List Tree → Prop
  | mk (s₁ s₂ s₃ s₄ opening closing : Span) :
      TakesField field us (.leaf (.punct '.' .alone) s₁ :: .leaf (.ident field) s₂ ::
        .leaf (.punct '.' .alone) s₃ :: .leaf (.ident ⟨"take", false⟩) s₄ ::
        .group .parenthesis [] opening closing :: us)

theorem exists_takesField {source : Source} {field : Ident} {code : Code} {trees : List Tree}
    (h : Tree.codeOf trees = (Content.take source field).code ++ code) :
    ∃ s ts us, trees = .leaf (.ident (sourceWord source)) s :: ts ∧ TakesField field us ts ∧
      Tree.codeOf us = code := by
  have hSource : Tree.codeOf trees = .atom (.ident (sourceWord source)) :: .punct '.'
      :: .ident field :: .punct '.' :: .word "take" :: .group .parenthesis [] :: code := by
    rw [h]
    cases source <;> rfl
  obtain ⟨s, ts, rfl, h₁⟩ := Tree.eq_leaf_of_codeOf hSource
  obtain ⟨s₁, ts, rfl, h₂⟩ := Tree.eq_leaf_of_codeOf h₁
  obtain ⟨s₂, ts, rfl, h₃⟩ := Tree.eq_leaf_of_codeOf h₂
  obtain ⟨s₃, ts, rfl, h₄⟩ := Tree.eq_leaf_of_codeOf h₃
  obtain ⟨s₄, ts, rfl, h₅⟩ := Tree.eq_leaf_of_codeOf h₄
  obtain ⟨inside, opening, closing, us, rfl, hInside, hCode⟩ := Tree.eq_group_of_codeOf h₅
  obtain rfl := Tree.eq_nil_of_codeOf hInside
  exact ⟨s, _, us, rfl, .mk s₁ s₂ s₃ s₄ opening closing, hCode⟩

theorem exprList_nil : Runs g.exprList [] [] [] := Runs.of_eq fun _ _ => ⟨_, rfl⟩

theorem exprList_one {t : Tree} {ts : List Tree} {e : Expr}
    (h : Runs (g.expr true) (t :: ts) e []) :
    Runs g.exprList (t :: ts) e.code [] := by
  refine .bind (Runs.repeatFrom (a := ([e], false)) fun fuel hFuel => ?_) (.pure _)
  obtain ⟨fuel, rfl⟩ := Nat.exists_eq_succ_of_ne_zero (Nat.ne_zero_of_lt hFuel)
  refine .iterate_stop fuel (.bind (a := false) (Runs.of_eq fun _ _ => ⟨_, rfl⟩) (.bind h ?_))
  exact .bind (a := true) (Runs.of_eq fun _ _ => ⟨_, rfl⟩) (.pure _)

theorem iterate_takesField {source : Source} {field : Ident} (hField : isName field = true)
    {ts us vs : List Tree} (h : TakesField field us ts) {fuel : Nat} {e : Expr}
    (hMore : Runs (iterate g.trailer fuel (takeExpr source field)) us e vs) :
    Runs (iterate g.trailer (fuel + 2) (sourceExpr source)) ts e vs := by
  obtain ⟨s₁, s₂, s₃, s₄, opening, closing⟩ := h
  refine .iterate_again (trailer_dotted g rfl s₁ s₂ (afterDot_field g hField _ s₂ s₃ _)) ?_
  exact .iterate_again (trailer_dotted g rfl s₃ s₄ (afterDot_call g (by decide) _ s₄ opening closing
    (exprList_nil g))) hMore

/-- `self.a.take()`, alone between parentheses. -/
theorem expr_take (depth : Nat) (source : Source) {field : Ident}
    (hField : isName field = true) (s : Span) {ts : List Tree} (h : TakesField field [] ts) :
    Runs ((atDepth (depth + 1)).expr true) (.leaf (.ident (sourceWord source)) s :: ts)
      (takeExpr source field) [] := by
  have hTrailers : Runs ((atDepth depth).trailers (sourceExpr source)) ts
      (takeExpr source field) [] := by
    refine Runs.repeatFrom fun fuel hFuel => ?_
    have hLength : ts.length = 5 := by
      cases h
      rfl
    -- two steps for the field and the call, one to find nothing more
    obtain ⟨fuel, rfl⟩ : ∃ k, fuel = k + 1 + 2 := ⟨fuel - 3, by omega⟩
    exact iterate_takesField _ hField h (.iterate_stop fuel (trailer_end _ _ _))
  obtain ⟨s₁, s₂, s₃, s₄, opening, closing⟩ := h
  exact expr_runs depth source s s₁ hTrailers

/-- The override's content of a field or else the receiver's, as an expression. -/
def mergedExpr (field : Ident) : Expr :=
  .dotted (takeExpr .override field)
    [.punct '.', .word "or", .group .parenthesis (takeExpr .receiver field).code]

/-- `from.a.take().or(self.a.take())` -/
theorem expr_merged (depth : Nat) {field : Ident} (hField : isName field = true) {trees : List Tree}
    (h : Tree.codeOf trees = (Content.or (.take .override field) (.take .receiver field)).code) :
    Runs ((atDepth (depth + 2)).expr true) trees (mergedExpr field) [] := by
  obtain ⟨s, ts, us, rfl, hTake, hOr⟩ := exists_takesField h
  obtain ⟨s₁, us, rfl, hOr₁⟩ := Tree.eq_leaf_of_codeOf hOr
  obtain ⟨s₂, us, rfl, hOr₂⟩ := Tree.eq_leaf_of_codeOf hOr₁
  obtain ⟨inside, opening, closing, us, rfl, hInside, hNil⟩ := Tree.eq_group_of_codeOf hOr₂
  obtain rfl := Tree.eq_nil_of_codeOf hNil
  rw [← List.append_nil (Content.code _)] at hInside
  obtain ⟨s₃, inner, rest, rfl, hInner, hRest⟩ := exists_takesField hInside
  obtain rfl := Tree.eq_nil_of_codeOf hRest
  -- the argument of `or` is read one level further down
  have hArgument := exprList_one _ (expr_take depth .receiver hField s₃ hInner)
  have hTrailers :
      Runs ((atDepth (depth + 1)).trailers (sourceExpr .override)) ts (mergedExpr field) [] := by
    refine Runs.repeatFrom fun fuel hFuel => ?_
    have hLength : ts.length = 8 := by
      cases hTake
      rfl
    obtain ⟨fuel, rfl⟩ : ∃ k, fuel = k + 2 + 2 := ⟨fuel - 4, by omega⟩
    refine iterate_takesField _ hField hTake
      (.iterate_again ?_ (.iterate_stop fuel (trailer_end _ _ _)))
    exact trailer_dotted _ rfl s₁ s₂ (afterDot_call _ (by decide) _ s₂ opening closing hArgument)
  obtain ⟨t₁, t₂, t₃, t₄, opening', closing'⟩ := hTake
  exact expr_runs (depth + 1) .override s t₁ hTrailers

/-- `::core::marker::PhantomData` -/
theorem expr_marker (depth : Nat) {trees : List Tree}
    (h : Tree.codeOf trees = Initializer.marker.code) :
    Runs ((atDepth (depth + 1)).expr true) trees
      (.leaf (.path none
        (.ofNames true [⟨"core", false⟩, ⟨"marker", false⟩, ⟨"PhantomData", false⟩]))
        Initializer.marker.code) [] := by
  obtain ⟨s₁, ts, rfl, h₁⟩ := Tree.eq_leaf_of_codeOf h
  obtain ⟨s₂, ts, rfl, h₂⟩ := Tree.eq_leaf_of_codeOf h₁
  obtain ⟨s₃, ts, rfl, h₃⟩ := Tree.eq_leaf_of_codeOf h₂
  obtain ⟨s₄, ts, rfl, h₄⟩ := Tree.eq_leaf_of_codeOf h₃
  obtain ⟨s₅, ts, rfl, h₅⟩ := Tree.eq_leaf_of_codeOf h₄
  obtain ⟨s₆, ts, rfl, h₆⟩ := Tree.eq_leaf_of_codeOf h₅
  obtain ⟨s₇, ts, rfl, h₇⟩ := Tree.eq_leaf_of_codeOf h₆
  obtain ⟨s₈, ts, rfl, h₈⟩ := Tree.eq_leaf_of_codeOf h₇
  obtain ⟨s₉, ts, rfl, h₉⟩ := Tree.eq_leaf_of_codeOf h₈
  obtain rfl := Tree.eq_nil_of_codeOf h₉
  exact Runs.of_eq fun _ _ => ⟨_, rfl⟩

/-! ## Entries -/

theorem fieldValue_runs {label : Ident} (h : isName label = true) (s s' : Span)
    {us : List Tree} {e : Expr} (hValue : Runs (g.expr true) us e []) :
    Runs g.fieldValue (.leaf (.ident label) s :: .leaf (.punct ':' .alone) s' :: us)
      (.ident label :: .punct ':' :: e.code) [] := by
  have hAttributes : Runs g.attributesCode
      (.leaf (.ident label) s :: .leaf (.punct ':' .alone) s' :: us) []
      (.leaf (.ident label) s :: .leaf (.punct ':' .alone) s' :: us) :=
        Runs.of_eq fun _ _ => ⟨_, rfl⟩
  refine .bind hAttributes (.bind (member_runs h s _) (.bind (a := true) (Runs.peek rfl) ?_))
  exact .bind (Runs.of_eq fun _ _ => ⟨_, rfl⟩) (.bind hValue (.pure _))

end Grammar

namespace Entry

open Reader Cursor Grammar

/-- The grammar reads the entry as a field of a struct literal, and prints it as it was. -/
def Accepted (entry : Entry) : Prop :=
  ∀ trees, Tree.codeOf trees = entry.code →
    Grammar.readAll (fun g => g.fieldValue) trees = .ok entry.code

/-- The grammar does not read the entry as a field of a struct literal. -/
def Refused (entry : Entry) : Prop :=
  ∀ trees, Tree.codeOf trees = entry.code →
    ∀ code, Grammar.readAll (fun g => g.fieldValue) trees ≠ .ok code

theorem merged_accepted {field : Ident} (h : field.isLabel = true) : (merged field).Accepted := by
  intro trees hTrees
  obtain ⟨s, ts, rfl, h₁⟩ := Tree.eq_leaf_of_codeOf hTrees
  obtain ⟨s', ts, rfl, h₂⟩ := Tree.eq_leaf_of_codeOf h₁
  exact Runs.complete (fieldValue_runs _ h s s' (expr_merged _ h h₂)) _

theorem marker_accepted {field : Ident} (h : field.isLabel = true) : (marker field).Accepted := by
  intro trees hTrees
  obtain ⟨s, ts, rfl, h₁⟩ := Tree.eq_leaf_of_codeOf hTrees
  obtain ⟨s', ts, rfl, h₂⟩ := Tree.eq_leaf_of_codeOf h₁
  exact Runs.complete (fieldValue_runs _ h s s' (expr_marker _ h₂)) _

/-- Whatever an entry is set to, its label has to be one. -/
theorem refused_of_not_isLabel {entry : Entry} (h : entry.label.isLabel = false) :
    entry.Refused := by
  intro trees hTrees code hRead
  obtain ⟨s, ts, rfl, -⟩ := Tree.eq_leaf_of_codeOf hTrees
  obtain ⟨last, hField⟩ := exists_of_complete hRead
  obtain ⟨attrs, middle, hAttributes, hRest⟩ := bind_eq_ok hField
  cases hAttributes
  obtain ⟨field, next, hMember, -⟩ := bind_eq_ok hRest
  exact member_ne_ok h rfl field next hMember

end Entry

end Overlay
