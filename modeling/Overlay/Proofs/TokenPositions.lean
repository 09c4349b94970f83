import Overlay.Grammar.Literal
import Overlay.Proofs.ReaderRules
import Overlay.Proofs.VisibleTokens
import Overlay.Text.Quoted

/-!
Positions among token trees: which tokens have been passed, and what is left behind them.

A complaint points at a place, so that for failures it does not do to know the visible tokens that
are left; the trees count as they are, with their invisible groups.  `Cursor.Passes trees ts rest`
says that the tokens `ts` are the first that are to be seen of `trees`, and that `rest` is left once
they are taken.

* Visible tokens decide what can be passed (`Passes.visibleAll_eq`, `exists_passes`), and each way
  of looking finds what stands at the front and leaves the rest (`first?_of_passes`,
  `sign?_of_passes`).
* `Reader.Moves scope reader trees a rest` and `Reader.Stops scope reader trees fault` follow a
  reader from a position in brackets that end at `scope`: it comes to another position, or it fails
  there.  They are cases of `Reader.Reads` and `Reader.Fails`, whose rules chain readers.
-/

namespace Overlay

namespace Cursor

open Overlay.Tree

/-! ## Passing tokens -/

/-- The tokens `ts` are the first that are to be seen of `trees`, and `rest` is left behind them. -/
inductive Passes : List Tree → List Tree → List Tree → Prop
  | nil (trees : List Tree) : Passes trees [] trees
  | cons {trees passed : List Tree} {token : Tree} {middle ts rest : List Tree}
      (h : settle trees = (passed, token :: middle)) (hMore : Passes middle ts rest) :
      Passes trees (token :: ts) rest

theorem visibleAll_of_settle {trees passed : List Tree} {token : Tree} {rest : List Tree}
    (h : settle trees = (passed, token :: rest)) : visibleAll trees = token :: visibleAll rest := by
  cases hVisible : visibleAll trees with
  | nil =>
    obtain ⟨passed', hNothing⟩ := settle_of_invisible hVisible
    rw [hNothing] at h
    nomatch h
  | cons v vs =>
    obtain ⟨passed', rest', hSettle, hRest, -⟩ := settle_of_visible hVisible
    rw [hSettle] at h
    obtain ⟨-, hTokens⟩ := Prod.mk.inj h
    obtain ⟨rfl, rfl⟩ := List.cons.inj hTokens
    rw [hRest]

theorem Passes.visibleAll_eq {trees ts rest : List Tree} (h : Passes trees ts rest) :
    visibleAll trees = ts ++ visibleAll rest := by
  induction h with
  | nil trees => rfl
  | cons h _ ih => rw [visibleAll_of_settle h, ih, List.cons_append]

/-- Visible tokens can be passed. -/
theorem exists_passes {trees ts us : List Tree} (h : visibleAll trees = ts ++ us) :
    ∃ rest, Passes trees ts rest ∧ visibleAll rest = us := by
  induction ts generalizing trees with
  | nil => exact ⟨trees, .nil trees, h⟩
  | cons t ts ih =>
    obtain ⟨passed, middle, hSettle, hVisible, -⟩ := settle_of_visible h
    obtain ⟨rest, hPasses, hRest⟩ := ih hVisible
    exact ⟨rest, .cons hSettle hPasses, hRest⟩

theorem passes_append {trees rest : List Tree} (ts us : List Tree) :
    Passes trees (ts ++ us) rest ↔ ∃ middle, Passes trees ts middle ∧ Passes middle us rest := by
  constructor
  · intro h
    induction ts generalizing trees with
    | nil => exact ⟨trees, .nil trees, h⟩
    | cons t ts ih =>
      cases h with
      | cons hSettle hMore =>
        obtain ⟨middle, hFirst, hSecond⟩ := ih hMore
        exact ⟨middle, .cons hSettle hFirst, hSecond⟩
  · rintro ⟨middle, hFirst, hSecond⟩
    induction hFirst with
    | nil trees => exact hSecond
    | cons hSettle _ ih => exact .cons hSettle (ih hSecond)

/-- What is left ends as the whole does. -/
theorem Passes.closed {trees ts rest : List Tree} (h : Passes trees ts rest)
    (hClosed : Closed trees) :
    Closed rest := by
  induction h with
  | nil trees => exact hClosed
  | cons hSettle _ ih =>
    obtain ⟨passed, middle, hSame, -, hMiddle⟩ := settle_of_visible (visibleAll_of_settle hSettle)
    rw [hSettle] at hSame
    obtain ⟨-, hTokens⟩ := Prod.mk.inj hSame
    obtain ⟨-, rfl⟩ := List.cons.inj hTokens
    exact ih (hMiddle hClosed)

/-- What is left shows fewer tokens, if any was passed. -/
theorem Passes.length_lt {trees ts rest : List Tree} (h : Passes trees ts rest) (hts : ts ≠ []) :
    (visibleAll rest).length < (visibleAll trees).length := by
  have hPos : 0 < ts.length := List.length_pos_iff.mpr hts
  rw [h.visibleAll_eq, List.length_append]
  omega

theorem Passes.ne_nil {trees rest : List Tree} {t : Tree} {ts : List Tree}
    (h : Passes trees (t :: ts) rest) :
    trees ≠ [] := by
  rintro rfl
  exact absurd (h.length_lt (List.cons_ne_nil _ _)) (Nat.not_lt_zero _)

/-! ## Looking at the front -/

/-- No identifier stands at the front. -/
def NoIdent (trees : List Tree) : Prop := firstAt identOf (visibleAll trees) = none

/-- This sign does not stand at the front. -/
def NoSign (text : String) (trees : List Tree) : Prop :=
  signAt text.toList (visibleAll trees) = none

/-- Brackets of this kind do not stand at the front. -/
def NoGroup (delimiter : Delimiter) (trees : List Tree) : Prop :=
  firstAt (groupOf delimiter) (visibleAll trees) = none

theorem first?_of_passes {α : Type} (front : Tree → Option α) {trees rest : List Tree}
    {t : Tree} {a : α} (h : Passes trees [t] rest) (hFront : front t = some a) :
    ∃ taken, first? front trees = some ⟨a, taken, rest⟩ := by
  cases h with
  | @cons _ passed _ _ _ _ hSettle hMore =>
    cases hMore
    refine ⟨passed ++ [t], ?_⟩
    rw [first?, hSettle]
    simp only [hFront, Option.map_some]

theorem first?_eq_none {α : Type} {front : Tree → Option α} {trees : List Tree}
    (h : firstAt front (visibleAll trees) = none) : first? front trees = none := by
  have hSees := first?_sees front trees
  rw [h] at hSees
  exact hSees

theorem signAt_of_punct {t : Tree} {c d : Char} {spacing : Spacing}
    (h : punctOf t = some (d, spacing)) (cs : List Char) (us : List Tree) :
    signAt (c :: cs) (t :: us)
      = if d = c ∧ (cs = [] ∨ spacing = .joint) then signAt cs us else none := by
  rw [signAt, firstAt, h]
  rfl

/-- A sign is spelled with its first character in front, joint unless it is the only one. -/
theorem exists_punct_of_signAt {c : Char} {cs : List Char} {vs us : List Tree}
    (h : signAt (c :: cs) vs = some ((), us)) :
    ∃ t spacing ms, vs = t :: ms ∧ punctOf t = some (c, spacing) ∧ (cs = [] ∨ spacing = .joint) ∧
      signAt cs ms = some ((), us) := by
  cases vs with
  | nil => cases h
  | cons t ms =>
    cases hPunct : punctOf t with
    | none =>
      rw [signAt, firstAt, hPunct] at h
      cases h
    | some p =>
      obtain ⟨d, spacing⟩ := p
      rw [signAt_of_punct hPunct] at h
      by_cases hGlued : d = c ∧ (cs = [] ∨ spacing = .joint)
      · rw [if_pos hGlued] at h
        obtain ⟨rfl, hSpacing⟩ := hGlued
        exact ⟨t, spacing, ms, rfl, hPunct, hSpacing, h⟩
      · rw [if_neg hGlued] at h
        cases h

theorem eq_nil_of_signAt {ts : List Tree} (h : signAt [] ts = some ((), [])) : ts = [] :=
  (Prod.mk.inj (Option.some.inj h)).2

/-- A sign that the passed tokens spell is found. -/
theorem sign?_of_passes {cs : List Char} {trees ts rest : List Tree} (h : Passes trees ts rest)
    (hSpelled : signAt cs ts = some ((), [])) :
    ∃ taken, sign? cs trees = some ⟨(), taken, rest⟩ := by
  induction cs generalizing trees ts with
  | nil =>
    obtain rfl := eq_nil_of_signAt hSpelled
    cases h
    exact ⟨[], rfl⟩
  | cons c cs ih =>
    obtain ⟨t, spacing, us, rfl, hPunct, hSpacing, hMore⟩ := exists_punct_of_signAt hSpelled
    obtain ⟨middle, hFirst, hPasses⟩ := (passes_append [t] us).mp h
    obtain ⟨taken, hFound⟩ := first?_of_passes punctOf hFirst hPunct
    obtain ⟨further, hRest⟩ := ih hPasses hMore
    refine ⟨taken ++ further, ?_⟩
    rw [sign?, punct?_eq, hFound]
    dsimp only
    rw [if_pos ⟨rfl, hSpacing⟩, hRest]

theorem NoSign.sign?_eq_none {text : String} {trees : List Tree} (h : NoSign text trees) :
    sign? text.toList trees = none := by
  have hSees := sign?_sees text.toList trees
  rw [h] at hSees
  exact hSees

/-- What is looked for stands at the front, or it does not. -/
theorem none_or_passes {α : Type} (front : Tree → Option α) (trees : List Tree) :
    firstAt front (visibleAll trees) = none
      ∨ ∃ t a rest, front t = some a ∧ Passes trees [t] rest := by
  cases hVisible : visibleAll trees with
  | nil => exact .inl rfl
  | cons v vs =>
    cases hFront : front v with
    | none => exact .inl (by rw [firstAt, hFront]; rfl)
    | some a =>
      obtain ⟨rest, hPasses, -⟩ := exists_passes (show visibleAll trees = [v] ++ vs from hVisible)
      exact .inr ⟨v, a, rest, hFront, hPasses⟩

theorem noIdent_or_passes (trees : List Tree) :
    NoIdent trees ∨ ∃ name s rest, Passes trees [.leaf (.ident name) s] rest := by
  rcases none_or_passes identOf trees with hNone | ⟨t, name, rest, hIdent, hPasses⟩
  · exact .inl hNone
  · unfold identOf at hIdent
    split at hIdent
    · exact .inr ⟨_, _, rest, hPasses⟩
    · nomatch hIdent

theorem noGroup_or_passes (delimiter : Delimiter) (trees : List Tree) :
    NoGroup delimiter trees ∨
      ∃ content opening closing rest, Passes trees
        [.group delimiter content opening closing] rest := by
  rcases none_or_passes (groupOf delimiter) trees with hNone | ⟨t, content, rest, hGroup, hPasses⟩
  · exact .inl hNone
  · unfold groupOf at hGroup
    split at hGroup
    · split at hGroup
      · rename_i hDelimiter
        subst hDelimiter
        exact .inr ⟨_, _, _, rest, hPasses⟩
      · nomatch hGroup
    · nomatch hGroup

theorem signAt_none_or_passes (cs : List Char) (trees : List Tree) :
    signAt cs (visibleAll trees) = none
      ∨ ∃ ts rest, signAt cs ts = some ((), []) ∧ Passes trees ts rest := by
  induction cs generalizing trees with
  | nil => exact .inr ⟨[], trees, rfl, .nil trees⟩
  | cons c cs ih =>
    rcases none_or_passes punctOf trees with hNone | ⟨t, ⟨d, spacing⟩, middle, hPunct, hFirst⟩
    · exact .inl (by rw [signAt, hNone])
    · rw [hFirst.visibleAll_eq, List.singleton_append, signAt_of_punct hPunct]
      by_cases hGlued : d = c ∧ (cs = [] ∨ spacing = .joint)
      · rw [if_pos hGlued]
        rcases ih middle with hNone | ⟨ts, rest, hSpelled, hPasses⟩
        · exact .inl hNone
        · refine .inr ⟨t :: ts, rest, ?_, (passes_append [t] ts).mpr ⟨middle, hFirst, hPasses⟩⟩
          rw [signAt_of_punct hPunct, if_pos hGlued]
          exact hSpelled
      · exact .inl (if_neg hGlued)

theorem eq_leaf_of_punctOf {t : Tree} {c : Char} {spacing : Spacing}
    (h : punctOf t = some (c, spacing)) :
    ∃ s, t = .leaf (.punct c spacing) s := by
  rcases t with (_ | ⟨d, glue⟩ | _) | _
  case leaf.punct s =>
    by_cases hQuote : d = '\''
    · rw [punctOf, if_pos hQuote] at h
      cases h
    · rw [punctOf, if_neg hQuote] at h
      obtain ⟨rfl, rfl⟩ := Prod.mk.inj (Option.some.inj h)
      exact ⟨s, rfl⟩
  all_goals cases h

/-- A sign of one character stands at the front, or it does not. -/
theorem noSign_or_passes (text : String) {c : Char} (hText : text.toList = [c])
    (trees : List Tree) :
    NoSign text trees ∨ ∃ spacing s rest, Passes trees [.leaf (.punct c spacing) s] rest := by
  rcases signAt_none_or_passes text.toList trees with hNone | ⟨ts, rest, hSpelled, hPasses⟩
  · exact .inl hNone
  · rw [hText] at hSpelled
    obtain ⟨t, spacing, us, rfl, hPunct, -, hMore⟩ := exists_punct_of_signAt hSpelled
    obtain ⟨s, rfl⟩ := eq_leaf_of_punctOf hPunct
    obtain rfl := eq_nil_of_signAt hMore
    exact .inr ⟨spacing, s, rest, hPasses⟩

/-- `::` stands at the front, or it does not. -/
theorem noColons_or_passes (trees : List Tree) :
    NoSign "::" trees ∨ ∃ spacing s₁ s₂ rest,
      Passes trees [.leaf (.punct ':' .joint) s₁, .leaf (.punct ':' spacing) s₂] rest := by
  rcases signAt_none_or_passes [':', ':'] trees with hNone | ⟨ts, rest, hSpelled, hPasses⟩
  · exact .inl hNone
  · obtain ⟨t₁, first, us, rfl, hFirst, hJoint, hMore⟩ := exists_punct_of_signAt hSpelled
    obtain ⟨t₂, spacing, vs, rfl, hSecond, -, hLast⟩ := exists_punct_of_signAt hMore
    obtain rfl := eq_nil_of_signAt hLast
    obtain rfl : first = .joint := hJoint.resolve_left (List.cons_ne_nil _ _)
    obtain ⟨s₁, rfl⟩ := eq_leaf_of_punctOf hFirst
    obtain ⟨s₂, rfl⟩ := eq_leaf_of_punctOf hSecond
    exact .inr ⟨spacing, s₁, s₂, rest, hPasses⟩

theorem signedLiteral?_of_passes {trees rest : List Tree} {text : String} {s : Span}
    (h : Passes trees [.leaf (.literal text) s] rest) :
    ∃ taken, signedLiteral? trees = some ⟨text, taken, rest⟩ := by
  obtain ⟨taken, hFound⟩ := first?_of_passes literalOf h rfl
  rw [← literal?_eq] at hFound
  exact ⟨taken, by rw [signedLiteral?, hFound]⟩

/-- A literal with the value of a string is one token. -/
theorem passes_of_signedLiteral? {trees taken rest : List Tree} {text : String} {value : List Char}
    (h : signedLiteral? trees = some ⟨text, taken, rest⟩)
    (hValue : Text.stringValue? text.toList = some value) :
    ∃ s, Passes trees [.leaf (.literal text) s] rest := by
  unfold signedLiteral? at h
  split at h
  · rename_i found hLiteral
    obtain rfl : found = ⟨text, taken, rest⟩ := Option.some.inj h
    unfold literal? at hLiteral
    split at hLiteral
    · rename_i passed text' s rest' hSettle
      obtain ⟨rfl, -, rfl⟩ := Found.mk.inj (Option.some.inj hLiteral)
      exact ⟨s, .cons hSettle (.nil rest')⟩
    · nomatch hLiteral
  · -- neither `true` nor a number with a minus sign is a string
    split at h
    · split at h
      · rename_i found hIdent hWord
        obtain ⟨rfl, -⟩ := Found.mk.inj (Option.some.inj h)
        rcases hWord with hWord | hWord <;> rw [hWord] at hValue <;> nomatch hValue
      · nomatch h
    · split at h
      · split at h
        · split at h
          · obtain ⟨rfl, -⟩ := Found.mk.inj (Option.some.inj h)
            rw [String.toList_append] at hValue
            nomatch hValue
          · nomatch h
        · nomatch h
      · nomatch h

end Cursor

/-! ## Readers at positions -/

/-- The input stands in front of these trees, in brackets that end at `scope`, and nothing is stray
so far. -/
structure Input.Stands (input : Input) (scope : Span) (trees : List Tree) : Prop where
  trees_eq : input.trees = trees
  scope_eq : input.scope = scope
  stray_eq : input.stray = none

namespace Reader

open Overlay.Tree Cursor

variable {α β : Type}

/-- The place that a complaint in front of these trees points at. -/
def placeIn (scope : Span) : List Tree → Span
  | [] => scope
  | t :: _ => t.headSpan

/-- The complaint that something is missing in front of these trees. -/
def missingIn (scope : Span) (what : String) : List Tree → Fault
  | [] => ⟨.ended (.expected [what]), scope⟩
  | t :: _ => ⟨.expected [what], t.headSpan⟩

/-- Standing in front of `trees`, the reader gives `a`, and then stands in front of `rest`. -/
abbrev Moves (scope : Span) (reader : Reader α) (trees : List Tree) (a : α)
    (rest : List Tree) : Prop :=
  Reads (·.Stands scope trees) reader a (·.Stands scope rest)

/-- Standing in front of `trees`, the reader reports `fault`. -/
abbrev Stops (scope : Span) (reader : Reader α) (trees : List Tree) (fault : Fault) : Prop :=
  Fails (·.Stands scope trees) reader fault

variable {scope : Span} {trees ts rest : List Tree} {a : α}

/-- A repetition has more tries than there are visible tokens. -/
theorem repeatFrom_goesOn (scope : Span) (trees : List Tree) (step : β → Reader (β ⊕ α))
    (state : β) :
    ∃ fuel, (visibleAll trees).length < fuel ∧
      GoesOn (·.Stands scope trees) (repeatFrom state step) (·.Stands scope trees)
        (iterate step fuel state) := by
  refine ⟨Tree.sizeOf trees + 1, Nat.lt_succ_of_le (length_visibleAll_le trees),
    fun input hInput => ?_⟩
  refine ⟨input, hInput, ?_⟩
  rw [← hInput.trees_eq]
  rfl

namespace Moves

theorem isEmpty (trees : List Tree) : Moves scope isEmpty trees trees.isEmpty trees := by
  rintro input ⟨rfl, hScope, hStray⟩
  exact ⟨input, rfl, rfl, hScope, hStray⟩

theorem isEmpty_false (h : trees ≠ []) : Moves scope Reader.isEmpty trees false trees := by
  have hAnswer : Moves scope Reader.isEmpty trees trees.isEmpty trees := isEmpty trees
  rw [List.isEmpty_eq_false_iff.mpr h] at hAnswer
  exact hAnswer

theorem peek {test : Test} {answer : Bool} (h : test trees = answer) :
    Moves scope (peek test) trees answer trees :=
  Reads.peek fun _ hInput => hInput.trees_eq ▸ h

theorem take {what : String} {look : List Tree → Option (Found α)} {taken : List Tree}
    (h : look trees = some ⟨a, taken, rest⟩) : Moves scope (take what look) trees a rest := by
  rintro input ⟨rfl, hScope, hStray⟩
  refine ⟨input.behind ⟨a, taken, rest⟩, ?_, rfl, hScope, hStray⟩
  rw [Reader.take, get_bind, h]
  rfl

theorem anyIdent {name : Ident} {s : Span} (h : Passes trees [.leaf (.ident name) s] rest) :
    Moves scope anyIdent trees name rest := by
  obtain ⟨taken, hFound⟩ := first?_of_passes identOf h rfl
  rw [← ident?_eq] at hFound
  exact take hFound

theorem sign {text : String} (h : Passes trees ts rest)
    (hSpelled : signAt text.toList ts = some ((), [])) :
    Moves scope (sign text) trees () rest := by
  rintro input ⟨rfl, hScope, hStray⟩
  obtain ⟨taken, hFound⟩ := sign?_of_passes h hSpelled
  refine ⟨input.behind ⟨(), taken, rest⟩, ?_, rfl, hScope, hStray⟩
  rw [Reader.sign, get_bind, hFound]
  rfl

theorem optSign_some {text : String} (h : Passes trees ts rest)
    (hSpelled : signAt text.toList ts = some ((), [])) :
    Moves scope (optSign text) trees true rest := by
  obtain ⟨taken, hFound⟩ := sign?_of_passes h hSpelled
  refine .bind (a := true) (peek ?_) (.bind (sign h hSpelled) (.pure true))
  rw [hasSign, hFound]
  rfl

theorem optSign_none {text : String} (h : NoSign text trees) :
    Moves scope (optSign text) trees false trees := by
  refine .bind (a := false) (peek ?_) (.pure false)
  rw [hasSign, h.sign?_eq_none]
  rfl

theorem remaining_discarded (trees : List Tree) : Moves scope (discard remaining) trees () [] :=
  fun _ hInput => ⟨_, rfl, rfl, hInput.scope_eq, hInput.stray_eq⟩

/-- Brackets whose content is passed over unread. -/
theorem within_discarded {delimiter : Delimiter} (hd : delimiter ≠ .invisible) {content : List Tree}
    {opening closing : Span} (h : Passes trees [.group delimiter content opening closing] rest) :
    Moves scope (within delimiter (discard remaining)) trees () rest := by
  rintro input ⟨rfl, hScope, hStray⟩
  obtain ⟨taken, hFound⟩ := first?_of_passes (groupOf delimiter) h (if_pos rfl)
  rw [← group?_eq hd] at hFound
  refine ⟨_, within_of_group hFound rfl, rfl, hScope, ?_⟩
  show input.stray.or none = none
  rw [hStray]
  rfl

/-- A literal, with the stretch that it covers. -/
theorem literal {text : String} {taken : List Tree}
    (h : signedLiteral? trees = some ⟨text, taken, rest⟩) :
    Moves scope literal trees ⟨text, coverOf taken⟩ rest := by
  rintro input ⟨rfl, hScope, hStray⟩
  have hTake : Reader.take "literal" signedLiteral? { input with taken := [] }
      = .ok (text, { input with trees := rest, taken := taken.reverse ++ [] }) := by
    rw [Reader.take, get_bind, h]
    rfl
  have hTaken : (taken.reverse ++ []).reverse = taken := by
    rw [List.append_nil, List.reverse_reverse]
  refine ⟨{ input with trees := rest, taken := taken.reverse ++ [] ++ input.taken }, ?_, rfl,
    hScope, hStray⟩
  rw [Reader.literal, bind_of_ok (recorded_eq hTake)]
  simp only [hTaken]
  rfl

theorem complete {reader : Reader α} (h : Moves scope reader trees a []) :
    complete reader trees scope = .ok a :=
  Reads.complete ⟨rfl, rfl, rfl⟩ (fun _ hEnd => ⟨hEnd.trees_eq, hEnd.stray_eq⟩) h

end Moves

namespace Stops

theorem missing (what : String) (trees : List Tree) :
    Stops scope (missing [what] : Reader α) trees (missingIn scope what trees) := by
  rintro ⟨left, place, stray, taken⟩ ⟨rfl, rfl, -⟩
  cases left <;> rfl

theorem refuse (reason : String) (trees : List Tree) :
    Stops scope (refuse reason : Reader α) trees ⟨.refused reason, placeIn scope trees⟩ := by
  rintro ⟨left, place, stray, taken⟩ ⟨rfl, rfl, -⟩
  cases left <;> rfl

theorem failAt (span : Span) (problem : Problem) (trees : List Tree) :
    Stops scope (failAt span problem : Reader α) trees ⟨problem, span⟩ := fun _ _ => rfl

theorem take {what : String} {look : List Tree → Option (Found α)} (h : look trees = none) :
    Stops scope (take what look) trees (missingIn scope what trees) := by
  intro input hInput
  rw [Reader.take, get_bind, hInput.trees_eq, h]
  exact missing what trees input hInput

theorem anyIdent (h : NoIdent trees) :
    Stops scope anyIdent trees (missingIn scope "ident" trees) := by
  refine take ?_
  rw [ident?_eq]
  exact first?_eq_none h

/-- That a sign is missing is said in the same words when nothing is left. -/
theorem sign {text : String} (h : NoSign text trees) :
    Stops scope (sign text) trees ⟨.expected ["`" ++ text ++ "`"], placeIn scope trees⟩ := by
  rintro ⟨left, place, stray, taken⟩ ⟨rfl, rfl, -⟩
  rw [Reader.sign, get_bind, h.sign?_eq_none]
  cases left <;> rfl

theorem literal (h : signedLiteral? trees = none) :
    Stops scope literal trees (missingIn scope "literal" trees) := by
  have hTake : Stops scope (Reader.take "literal" signedLiteral?) trees
      (missingIn scope "literal" trees) :=
    take h
  exact (hTake.recorded fun _ _ hInput =>
    ⟨hInput.trees_eq, hInput.scope_eq, hInput.stray_eq⟩).bind _

end Stops

end Reader

end Overlay
