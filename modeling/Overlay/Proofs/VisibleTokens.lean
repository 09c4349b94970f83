import Overlay.Reader.Cursor

/-!
Token trees, seen from outside: the tokens that are to be seen.

A cursor looks through invisible groups, and a group that has been looked into dissolves into what
surrounds it.  Which groups have dissolved so far, and which empty ones have been passed over, is of
no importance for what is read; only the VISIBLE tokens are, in their order (`Tree.visibleAll`).
One more thing about invisible groups can be noticed: an empty one at the very end is not the end.
`Tree.Closed` says that there is none.

* `settle_of_visible` is the one fact about `Cursor.settle` that everything else rests on: the first
  visible token comes to the front, and the visible tokens behind it stay.  The proof follows the
  two mutually recursive functions, `openTree` on a tree and `settle` on a sequence.
* From it, each way of looking (`ident?`, `punct?`, `literal?`, `group?`, `sign?`) is decided by the
  first visible tokens alone.
-/

namespace Overlay

/-! ## What is to be seen of a sequence of trees -/

namespace Tree

mutual

/-- What is to be seen of a tree: an invisible group shows its content. -/
def visible : Tree → List Tree
  | leaf a span => [leaf a span]
  | group d content opening closing =>
    if d = .invisible then visibleAll content else [group d content opening closing]

/-- The visible tokens of a sequence of trees. -/
def visibleAll : List Tree → List Tree
  | [] => []
  | t :: ts => t.visible ++ visibleAll ts

end

mutual

/-- The tree ends with a visible token: no empty invisible group stands behind it. -/
def endsVisibly : Tree → Bool
  | leaf _ _ => true
  | group d content _ _ => if d = .invisible then endsVisiblyAll content else true

/-- The sequence ends with a visible token. -/
def endsVisiblyAll : List Tree → Bool
  | [] => false
  | [t] => t.endsVisibly
  | _ :: t :: ts => endsVisiblyAll (t :: ts)

end

/-- There is no empty invisible group at the end. -/
def Closed (ts : List Tree) : Prop := ts = [] ∨ endsVisiblyAll ts = true

theorem visibleAll_append (ts us : List Tree) :
    visibleAll (ts ++ us) = visibleAll ts ++ visibleAll us := by
  induction ts with
  | nil => rfl
  | cons t ts ih => rw [List.cons_append, visibleAll, visibleAll, ih, List.append_assoc]

theorem endsVisiblyAll_append_cons (ts : List Tree) (u : Tree) (us : List Tree) :
    endsVisiblyAll (ts ++ u :: us) = endsVisiblyAll (u :: us) := by
  induction ts with
  | nil => rfl
  | cons t ts ih =>
    cases ts with
    | nil => rw [List.cons_append, List.nil_append, endsVisiblyAll]
    | cons t' ts =>
      rw [List.cons_append, List.cons_append, endsVisiblyAll]
      exact ih

/-- What is put in front of a closed sequence matters only where that is empty. -/
theorem Closed.append {ts us : List Tree} (hts : us = [] → Closed ts) (hus : Closed us) :
    Closed (ts ++ us) := by
  cases us with
  | nil =>
    rw [List.append_nil]
    exact hts rfl
  | cons u us =>
    refine Or.inr ?_
    rw [endsVisiblyAll_append_cons]
    rcases hus with h | h
    · nomatch h
    · exact h

end Tree

/-! ## The first visible token comes to the front -/

namespace Cursor

open Overlay.Tree

/-- What opening a tree, or settling a sequence, finds in front of these visible tokens. -/
def Opens (result : List Tree × List Tree) (visible : List Tree) (closed : Prop) : Prop :=
  match visible with
  | [] => result.2 = []
  | v :: vs => ∃ rest, result.2 = v :: rest ∧ visibleAll rest = vs ∧ (closed → Closed rest)

mutual

theorem openTree_opens : (t : Tree) → Opens (openTree t) t.visible (t.endsVisibly = true)
  | .leaf a span => ⟨[], rfl, rfl, fun _ => Or.inl rfl⟩
  | .group d content opening closing => by
    by_cases hd : d = .invisible
    · have ih := settle_opens content
      rw [openTree, if_pos hd, visible, if_pos hd, endsVisibly, if_pos hd]
      cases hv : visibleAll content with
      | nil =>
        rw [hv] at ih
        have hNone : (settle content).2 = [] := ih
        cases hs : settle content with
        | mk passed rest =>
          rw [hs] at hNone
          cases passed with
          | nil => rw [show rest = [] from hNone]; rfl
          | cons p passed => exact hNone
      | cons v vs =>
        rw [hv] at ih
        obtain ⟨rest, hRest, hVisible, hClosed⟩ := ih
        cases hs : settle content with
        | mk passed found =>
          rw [hs] at hRest
          cases passed with
          | nil => rw [show found = v :: rest from hRest]; exact ⟨rest, rfl, hVisible, hClosed⟩
          | cons p passed => exact ⟨rest, hRest, hVisible, hClosed⟩
    · rw [openTree, if_neg hd, visible, if_neg hd]
      exact ⟨[], rfl, rfl, fun _ => Or.inl rfl⟩

theorem settle_opens : (ts : List Tree) → Opens (settle ts) (visibleAll ts)
    (endsVisiblyAll ts = true)
  | [] => rfl
  | t :: ts => by
    have hTree := openTree_opens t
    have hTrees := settle_opens ts
    rw [settle, visibleAll]
    cases hv : t.visible with
    | nil =>
      -- nothing is to be seen of the tree: it is passed over
      rw [hv] at hTree
      have hNone : (openTree t).2 = [] := hTree
      cases ho : openTree t with
      | mk passed opened =>
        rw [ho] at hNone
        rw [show opened = [] from hNone]
        cases hvs : visibleAll ts with
        | nil =>
          rw [hvs] at hTrees
          exact hTrees
        | cons v vs =>
          rw [hvs] at hTrees
          obtain ⟨rest, hRest, hVisible, hClosed⟩ := hTrees
          refine ⟨rest, hRest, hVisible, fun h => hClosed ?_⟩
          cases ts with
          | nil => nomatch hvs
          | cons u us => exact h
    | cons v vs =>
      -- the tree dissolves in front of what follows it
      rw [hv] at hTree
      obtain ⟨rest, hRest, hVisible, hClosed⟩ := hTree
      cases ho : openTree t with
      | mk passed opened =>
        rw [ho] at hRest
        rw [show opened = v :: rest from hRest]
        refine ⟨rest ++ ts, rfl, by rw [visibleAll_append, hVisible]; rfl, fun h => ?_⟩
        cases ts with
        | nil =>
          rw [List.append_nil]
          exact hClosed h
        | cons u us => exact Closed.append (fun e => nomatch e) (Or.inr h)

end

/-- Where nothing is to be seen, settling leaves nothing. -/
theorem settle_of_invisible {trees : List Tree} (h : visibleAll trees = []) :
    ∃ passed, settle trees = (passed, []) := by
  have hOpens := settle_opens trees
  rw [h] at hOpens
  exact ⟨(settle trees).1, Prod.ext rfl hOpens⟩

/-- The first visible token comes to the front, and the visible tokens behind it stay as they
are. -/
theorem settle_of_visible {trees : List Tree} {v : Tree} {vs : List Tree}
    (h : visibleAll trees = v :: vs) :
    ∃ passed rest, settle trees = (passed, v :: rest) ∧ visibleAll rest = vs ∧
      (Closed trees → Closed rest) := by
  have hOpens := settle_opens trees
  rw [h] at hOpens
  obtain ⟨rest, hRest, hVisible, hClosed⟩ := hOpens
  refine ⟨(settle trees).1, rest, Prod.ext rfl hRest, hVisible, fun hTrees => hClosed ?_⟩
  rcases hTrees with hNil | hEnds
  · rw [hNil] at h
    nomatch h
  · exact hEnds

/-! ## Looking is decided by the visible tokens -/

/-- A look finds this value in front of these visible tokens, or nothing. -/
def Sees {α : Type} (found : Option (Found α)) (seen : Option (α × List Tree))
    (closed : Prop) : Prop :=
  match seen with
  | none => found = none
  | some (a, vs) =>
    ∃ f, found = some f ∧ f.value = a ∧ visibleAll f.rest = vs ∧ (closed → Closed f.rest)

/-- What is found at the front, where the first visible token alone decides. -/
def first? {α : Type} (front : Tree → Option α) (trees : List Tree) : Option (Found α) :=
  match settle trees with
  | (passed, v :: rest) => (front v).map fun a => ⟨a, passed ++ [v], rest⟩
  | (_, []) => none

/-- The same on visible tokens. -/
def firstAt {α : Type} (front : Tree → Option α) : List Tree → Option (α × List Tree)
  | [] => none
  | v :: vs => (front v).map fun a => (a, vs)

theorem first?_sees {α : Type} (front : Tree → Option α) (trees : List Tree) :
    Sees (first? front trees) (firstAt front (visibleAll trees)) (Closed trees) := by
  cases h : visibleAll trees with
  | nil =>
    obtain ⟨passed, hs⟩ := settle_of_invisible h
    rw [first?, hs]
    rfl
  | cons v vs =>
    obtain ⟨passed, rest, hs, hVisible, hClosed⟩ := settle_of_visible h
    rw [first?, hs, firstAt]
    dsimp only
    cases front v with
    | none => rfl
    | some a => exact ⟨⟨a, passed ++ [v], rest⟩, rfl, rfl, hVisible, hClosed⟩

/-- The identifier that a token is. -/
def identOf : Tree → Option Ident
  | .leaf (.ident name) _ => some name
  | _ => none

/-- The punctuation character that a token is. -/
def punctOf : Tree → Option (Char × Spacing)
  | .leaf (.punct c spacing) _ => if c = '\'' then none else some (c, spacing)
  | _ => none

/-- The literal that a token is. -/
def literalOf : Tree → Option String
  | .leaf (.literal text) _ => some text
  | _ => none

/-- The content of the brackets that a token is. -/
def groupOf (delimiter : Delimiter) : Tree → Option (List Tree × Span)
  | .group d content _ closing => if d = delimiter then some (content, closing) else none
  | _ => none

theorem ident?_eq (trees : List Tree) : ident? trees = first? identOf trees := by
  rw [ident?, first?]
  rcases settle trees with ⟨passed, _ | ⟨(_ | _ | _) | _, rest⟩⟩ <;> rfl

theorem literal?_eq (trees : List Tree) : literal? trees = first? literalOf trees := by
  rw [literal?, first?]
  rcases settle trees with ⟨passed, _ | ⟨(_ | _ | _) | _, rest⟩⟩ <;> rfl

theorem punct?_eq (trees : List Tree) : punct? trees = first? punctOf trees := by
  rw [punct?, first?]
  rcases settle trees with ⟨passed, _ | ⟨(_ | ⟨c, spacing⟩ | _) | _, rest⟩⟩
  case cons.leaf.punct =>
    by_cases hc : c = '\'' <;> simp [punctOf, hc]
  all_goals rfl

theorem group?_eq {delimiter : Delimiter} (hd : delimiter ≠ .invisible) (trees : List Tree) :
    group? delimiter trees = first? (groupOf delimiter) trees := by
  rw [group?, first?, if_neg hd]
  rcases settle trees with ⟨passed, _ | ⟨_ | ⟨d, content, opening, closing⟩, rest⟩⟩
  case cons.group =>
    by_cases hc : d = delimiter <;> simp [groupOf, hc]
  all_goals rfl

/-- The sign that visible tokens begin with. -/
def signAt : List Char → List Tree → Option (Unit × List Tree)
  | [], vs => some ((), vs)
  | c :: cs, vs =>
    match firstAt punctOf vs with
    | some ((d, spacing), us) => if d = c ∧ (cs = [] ∨ spacing = .joint) then signAt cs us else none
    | none => none

theorem sign?_sees (cs : List Char) (trees : List Tree) :
    Sees (sign? cs trees) (signAt cs (visibleAll trees)) (Closed trees) := by
  induction cs generalizing trees with
  | nil => exact ⟨_, rfl, rfl, rfl, id⟩
  | cons c cs ih =>
    rw [sign?, signAt, punct?_eq]
    have hFirst := first?_sees punctOf trees
    cases hp : firstAt punctOf (visibleAll trees) with
    | none =>
      rw [hp] at hFirst
      rw [show first? punctOf trees = none from hFirst]
      rfl
    | some p =>
      obtain ⟨⟨d, spacing⟩, us⟩ := p
      rw [hp] at hFirst
      obtain ⟨⟨value, taken, rest⟩, hFound, rfl, rfl, hClosed⟩ := hFirst
      rw [hFound]
      dsimp only
      by_cases hSign : d = c ∧ (cs = [] ∨ spacing = .joint)
      · rw [if_pos hSign, if_pos hSign]
        have hRest := ih rest
        cases hr : signAt cs (visibleAll rest) with
        | none =>
          rw [hr] at hRest
          rw [show sign? cs rest = none from hRest]
          rfl
        | some q =>
          rw [hr] at hRest
          obtain ⟨f, hf, hValue, hVisible, hMore⟩ := hRest
          rw [hf]
          exact ⟨_, rfl, hValue, hVisible, fun h => hMore (hClosed h)⟩
      · rw [if_neg hSign, if_neg hSign]
        rfl

end Cursor

/-! ## How many tokens are visible -/

namespace Tree

mutual

theorem visible_ne_nil : (t : Tree) → t.endsVisibly = true → t.visible ≠ []
  | .leaf _ _, _ => List.cons_ne_nil _ _
  | .group d content opening closing, h => by
    rw [visible]
    by_cases hd : d = .invisible
    · rw [endsVisibly, if_pos hd] at h
      rw [if_pos hd]
      exact visibleAll_ne_nil content h
    · rw [if_neg hd]
      exact List.cons_ne_nil _ _

theorem visibleAll_ne_nil : (ts : List Tree) → endsVisiblyAll ts = true → visibleAll ts ≠ []
  | [t], h => by
    rw [visibleAll, visibleAll, List.append_nil]
    exact visible_ne_nil t h
  | t :: u :: us, h => by
    rw [visibleAll]
    exact List.append_ne_nil_of_right_ne_nil _ (visibleAll_ne_nil (u :: us) h)

end

/-- A closed sequence in which nothing is to be seen is empty. -/
theorem eq_nil_of_closed {trees : List Tree} (hClosed : Closed trees) (h : visibleAll trees = []) :
    trees = [] := by
  rcases hClosed with hNil | hEnds
  · exact hNil
  · exact absurd h (visibleAll_ne_nil trees hEnds)

mutual

theorem length_visible_le : (t : Tree) → t.visible.length ≤ t.size
  | .leaf _ _ => Nat.le_refl 1
  | .group d content opening closing => by
    have ih := length_visibleAll_le content
    rw [visible, size]
    by_cases hd : d = .invisible
    · rw [if_pos hd]
      omega
    · rw [if_neg hd, List.length_singleton]
      omega

/-- There are at most as many visible tokens as there are tokens. -/
theorem length_visibleAll_le : (ts : List Tree) → (visibleAll ts).length ≤ sizeOf ts
  | [] => Nat.le_refl 0
  | t :: ts => by
    have hTree := length_visible_le t
    have hTrees := length_visibleAll_le ts
    rw [visibleAll, List.length_append, sizeOf]
    omega

end

end Tree

end Overlay
