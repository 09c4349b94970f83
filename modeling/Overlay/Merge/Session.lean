import Overlay.Merge.Execution
import Overlay.Merge.Layers

/-!
Sessions: one value as state, and a sequence of steps that merge other values into it.
-/

namespace Overlay

/-- A type whose values a session can hold: its own methods, and those of the trait. -/
structure Subject (α : Type) where
  inherent : Merging α
  trait : Merging α

/-- One step of a session. -/
inductive Step (α : Type) where
  | set (value : α)
  | merge (override : α)
  | mergeInPlace (override : α)
  | traitMerge (override : α)
  | traitMergeInPlace (override : α)
  /-- Merges the state with itself. -/
  | mergeSelf
  /-- Merges the state over a base. -/
  | mergeUnder (base : α)
  | mergeAll (layers : List α)
  /-- Merges layers and keeps the result, if there is one. -/
  | collapse (layers : List α)

/-- What a step leads to: the next state, the reports on the way, and for `collapse` whether there
was a result. -/
structure Outcome (α : Type) where
  state : α
  reports : List Report := []
  found : Option Bool := none

namespace Subject

variable {α : Type} (subject : Subject α)

/-- Takes one step. -/
def step (state : α) : Step α → Outcome α
  | .set value => { state := value }
  | .merge override => { state := subject.inherent.merge state override }
  | .mergeInPlace override => { state := subject.inherent.mergeInPlace state override }
  | .traitMerge override => { state := subject.trait.merge state override }
  | .traitMergeInPlace override => { state := subject.trait.mergeInPlace state override }
  | .mergeSelf => { state := subject.inherent.merge state state }
  | .mergeUnder base => { state := subject.inherent.merge base state }
  | .mergeAll layers =>
    let (merged, reports) := subject.trait.mergeAll state layers
    { state := merged, reports }
  | .collapse layers =>
    let (merged?, reports) := subject.trait.collapse layers
    { state := merged?.getD state, reports, found := some merged?.isSome }

/-- The outcomes of all steps, in order. -/
def run (state : α) : List (Step α) → List (Outcome α)
  | [] => []
  | next :: rest =>
    let outcome := subject.step state next
    outcome :: run outcome.state rest

end Subject

namespace Implementation

variable {V : Type} (i : Implementation)

/-- The method that a call by name reaches. -/
def method? (name : String) : Option Operation :=
  [i.merging, i.mergingInPlace].find? fun op => op.name = name

/-- The trait's method for an operation: it calls the method of the same name. -/
def forwarded (op : Operation) (receiver override : Slots V) : Slots V :=
  match i.method? op.name with
  | some target => target.apply receiver override
  | none => receiver

/-- The values of a record with derived methods. -/
def subject : Subject (Slots V) where
  inherent := ⟨i.merging.apply, i.mergingInPlace.apply⟩
  trait := ⟨i.forwarded i.merging, i.forwarded i.mergingInPlace⟩

end Implementation

end Overlay
