/-!
Merging a sequence of layers, for any type that knows how to merge two of its values.  The helpers
use nothing but that one operation, and report what they have done.
-/

namespace Overlay

/-- Two ways to merge a value with one that overrides it: by a new value, or in place. -/
structure Merging (α : Type) where
  merge : α → α → α
  mergeInPlace : α → α → α

/-- What the helpers report. -/
inductive Report where
  /-- So many layers were merged over a base. -/
  | merged (layers : Nat)
  /-- There was no layer at all. -/
  | nothingToMerge
deriving DecidableEq, Repr

namespace Report

/-- The wording of a report. -/
def message : Report → String
  | merged _ => "spread layers over base"
  | nothingToMerge => "no layers to merge"

/-- The number of layers, where a report gives one. -/
def layers? : Report → Option Nat
  | merged layers => some layers
  | nothingToMerge => none

end Report

/-- What is emitted for a report.  It names the type whose values were merged. -/
structure Event where
  level : String
  message : String
  record : String
  layers? : Option Nat
deriving DecidableEq, Repr

/-- The event of a report about a type of this name. -/
def Report.event (record : String) (report : Report) : Event :=
  ⟨"TRACE", report.message, record, report.layers?⟩

/-- The largest number of layers that is counted: the greatest unsigned number of 64 bits, which is
what a machine word holds where words have that many. -/
def layerLimit : Nat := 0xffffffffffffffff

/-- One more layer; the count stays at its limit. -/
def countLayer (count : Nat) : Nat := min (count + 1) layerLimit

namespace Merging

variable {α : Type} (m : Merging α)

/-- Merges every layer over a base, in order, so that later layers win. -/
def mergeAll (base : α) (layers : List α) : α × List Report :=
  let (merged, count) := layers.foldl
    (fun (merged, count) layer => (m.merge merged layer, countLayer count)) (base, 0)
  (merged, [.merged count])

/-- Merges layers in order, the first one being the base. -/
def collapse (layers : List α) : Option α × List Report :=
  match layers with
  | [] => (none, [.nothingToMerge])
  | base :: rest =>
    let (merged, reports) := m.mergeAll base rest
    (some merged, reports)

end Merging

end Overlay
