import Overlay.Proofs.Sessions

/-!
Laws of the layer helpers, for EVERY way to merge.

PROGRAM   `Merging.mergeAll` and `Merging.collapse`, over a type with any two functions as its
          methods.  What they emit are the events of their reports, which name the type
          (`Report.event`).
LAWS      (1) layers can be merged in two portions, one after the other (`mergeAll_append`);
          (2) a function that commutes with merging commutes with the helpers (`mergeAll_map`,
              `collapse_map`), whatever merging in place does on either side;
          (3) one call emits one event, and its count is that of the layers, up to the limit.
BLOCKS    none of this asks anything of the merge.  Where it is ASSOCIATIVE, layers can moreover be
          merged in blocks.  The crux is that `collapse` then turns the concatenation of lists into
          the merge of two results, where no result is neutral (`AssocOn.collapse_append`); cutting
          into blocks is repeated concatenation.

Associativity is asked for among values with a property that merging preserves (`AssocOn`), since
records are lists of fields of which only some are values of the record at hand.
-/

namespace Overlay

variable {α β : Type}

/-- The same event, about a type of another name. -/
def Event.renamed (record : String) (event : Event) : Event := { event with record }

namespace Merging

/-! ## Portions and reports -/

variable (m : Merging α)

/-- **Merging layers in two portions**: the result for the first is the base of the second. -/
theorem mergeAll_append (base : α) (xs ys : List α) :
    (m.mergeAll base (xs ++ ys)).1 = (m.mergeAll (m.mergeAll base xs).1 ys).1 := by
  have hFirst : (m.mergeAll base xs).1 = xs.foldl m.merge base := by rw [mergeAll_eq]
  rw [hFirst, mergeAll_eq, mergeAll_eq]
  exact List.foldl_append

/-- Merging layers over a base is one event, with their number. -/
theorem events_mergeAll (record : String) (base : α) (layers : List α) :
    (m.mergeAll base layers).2.map (Report.event record)
      = [⟨"TRACE", "spread layers over base", record, some (min layers.length layerLimit)⟩] := by
  rw [mergeAll_eq]
  rfl

/-- Merging layers without a base is one event: it has no number if there are no layers, and
otherwise the number of those behind the first. -/
theorem events_collapse (record : String) (layers : List α) :
    (m.collapse layers).2.map (Report.event record)
      = if layers = [] then [⟨"TRACE", "no layers to merge", record, none⟩]
        else [⟨"TRACE", "spread layers over base", record,
          some (min (layers.length - 1) layerLimit)⟩] := by
  cases layers with
  | nil => rfl
  | cons base rest =>
    have hLength : (base :: rest).length - 1 = rest.length := by
      rw [List.length_cons]
      omega
    rw [if_neg (List.cons_ne_nil base rest), hLength]
    exact m.events_mergeAll record base rest

/-! ## Associative merging -/

/-- Among the values with `P` merging is associative, and it leads to such values only. -/
structure AssocOn (P : α → Prop) : Prop where
  merge_mem : ∀ {x y}, P x → P y → P (m.merge x y)
  assoc : ∀ {x y z}, P x → P y → P z → m.merge (m.merge x y) z = m.merge x (m.merge y z)

namespace AssocOn

variable {m} {P : α → Prop} (h : m.AssocOn P)

include h

/-- Layers with `P` give a result with `P`. -/
theorem exists_collapse {layers : List α} (hNe : layers ≠ []) (hLayers : ∀ x ∈ layers, P x) :
    ∃ merged, (m.collapse layers).1 = some merged ∧ P merged := by
  obtain ⟨base, rest, rfl⟩ := List.exists_cons_of_ne_nil hNe
  refine ⟨rest.foldl m.merge base, by rw [collapse_cons], ?_⟩
  have hBase : P base := hLayers base List.mem_cons_self
  exact List.foldlRecOn rest m.merge hBase fun x hx y hy =>
    h.merge_mem hx (hLayers y (List.mem_cons_of_mem base hy))

/-- A base can be split off: what it is merged with may as well be merged first. -/
theorem foldl_merge {x y : α} {layers : List α} (hx : P x) (hy : P y)
    (hLayers : ∀ z ∈ layers, P z) :
    layers.foldl m.merge (m.merge x y) = m.merge x (layers.foldl m.merge y) := by
  induction layers generalizing y with
  | nil => rfl
  | cons z rest ih =>
    have hz : P z := hLayers z List.mem_cons_self
    rw [List.foldl_cons, List.foldl_cons, h.assoc hx hy hz]
    exact ih (h.merge_mem hy hz) fun w hw => hLayers w (List.mem_cons_of_mem z hw)

/-- **Merging a concatenation is merging two results**; a part without layers has no result, and
changes nothing. -/
theorem collapse_append {xs ys : List α} (hxs : ∀ x ∈ xs, P x) (hys : ∀ y ∈ ys, P y) :
    (m.collapse (xs ++ ys)).1 = Option.merge m.merge (m.collapse xs).1 (m.collapse ys).1 := by
  cases xs with
  | nil => exact Option.merge_none_left.symm
  | cons x xs =>
    cases ys with
    | nil =>
      rw [List.append_nil]
      exact Option.merge_none_right.symm
    | cons y ys =>
      -- the first layer behind the cut is merged into everything in front of it
      have hFront : P (xs.foldl m.merge x) := by
        obtain ⟨merged, hMerged, hP⟩ := h.exists_collapse (List.cons_ne_nil x xs) hxs
        rw [collapse_cons] at hMerged
        obtain rfl : xs.foldl m.merge x = merged := Option.some.inj hMerged
        exact hP
      have hSplit : (xs ++ y :: ys).foldl m.merge x
          = m.merge (xs.foldl m.merge x) (ys.foldl m.merge y) := by
        rw [List.foldl_append, List.foldl_cons]
        exact h.foldl_merge hFront (hys y List.mem_cons_self) fun z hz =>
          hys z (List.mem_cons_of_mem y hz)
      rw [List.cons_append, collapse_cons, collapse_cons, collapse_cons, hSplit]
      rfl

/-- A first layer is merged with the result of the others. -/
theorem collapse_cons_eq_merge {x : α} {rest : List α} (hLayers : ∀ y ∈ x :: rest, P y) :
    (m.collapse (x :: rest)).1 = Option.merge m.merge (some x) (m.collapse rest).1 := by
  obtain ⟨hx, hRest⟩ := List.forall_mem_cons.mp hLayers
  exact h.collapse_append (List.forall_mem_singleton.mpr hx) hRest

/-- **Merging in blocks**: every block has a result, and merging the results is merging all
layers. -/
theorem collapse_blocks {blocks : List (List α)} (hNe : ∀ block ∈ blocks, block ≠ [])
    (hBlocks : ∀ block ∈ blocks, ∀ x ∈ block, P x) :
    ∃ results, blocks.map (fun block => (m.collapse block).1) = results.map some
      ∧ (∀ result ∈ results, P result)
      ∧ (m.collapse results).1 = (m.collapse blocks.flatten).1 := by
  induction blocks with
  | nil => exact ⟨[], rfl, List.forall_mem_nil P, rfl⟩
  | cons block rest ih =>
    obtain ⟨hBlockNe, hRestNe⟩ := List.forall_mem_cons.mp hNe
    obtain ⟨hBlock, hRest⟩ := List.forall_mem_cons.mp hBlocks
    obtain ⟨results, hResults, hMem, hMerged⟩ := ih hRestNe hRest
    obtain ⟨result, hResult, hP⟩ := h.exists_collapse hBlockNe hBlock
    have hFlatten : ∀ x ∈ rest.flatten, P x := by
      intro x hx
      obtain ⟨other, hOther, hx⟩ := List.mem_flatten.mp hx
      exact hRest other hOther x hx
    have hAll : ∀ x ∈ result :: results, P x := List.forall_mem_cons.mpr ⟨hP, hMem⟩
    refine ⟨result :: results, ?_, hAll, ?_⟩
    · rw [List.map_cons, List.map_cons, hResult, hResults]
    · calc (m.collapse (result :: results)).1
          = Option.merge m.merge (some result) (m.collapse results).1 :=
            h.collapse_cons_eq_merge hAll
        _ = Option.merge m.merge (m.collapse block).1 (m.collapse rest.flatten).1 := by
          rw [hResult, hMerged]
        _ = (m.collapse (block ++ rest.flatten)).1 := (h.collapse_append hBlock hFlatten).symm

end AssocOn

end Merging

/-- **The layer helpers are lawful for every way to merge.**  Of two types with any methods,
    (1) merging layers in two portions is merging them at once;
    (2) a function between the types that commutes with merging commutes with both helpers, and the
        same events are emitted on both sides, except that they name the other type;
    (3) merging layers over a base emits one event, whose count is their number up to the limit;
        merging layers alone emits one event, without a count if there are none, and otherwise with
        a count of one less than their number, up to the limit;
    (4) if merging is associative, layers that are cut into blocks, none of them empty, have a
        result for each block, and merging the results gives what merging the layers gives. -/
theorem layer_helpers_lawful (m : Merging α) (n : Merging β) :
    (∀ base xs ys, (m.mergeAll base (xs ++ ys)).1 = (m.mergeAll (m.mergeAll base xs).1 ys).1)
      ∧ (∀ g : α → β, (∀ x y, g (m.merge x y) = n.merge (g x) (g y)) → ∀ record other,
          (∀ base layers,
            (n.mergeAll (g base) (layers.map g)).1 = g (m.mergeAll base layers).1
              ∧ (n.mergeAll (g base) (layers.map g)).2.map (Report.event other)
                = ((m.mergeAll base layers).2.map (Report.event record)).map (Event.renamed other))
          ∧ ∀ layers,
            (n.collapse (layers.map g)).1 = (m.collapse layers).1.map g
              ∧ (n.collapse (layers.map g)).2.map (Report.event other)
                = ((m.collapse layers).2.map (Report.event record)).map (Event.renamed other))
      ∧ (∀ record base layers, (m.mergeAll base layers).2.map (Report.event record)
          = [⟨"TRACE", "spread layers over base", record, some (min layers.length layerLimit)⟩])
      ∧ (∀ record layers, (m.collapse layers).2.map (Report.event record)
          = if layers = [] then [⟨"TRACE", "no layers to merge", record, none⟩]
            else [⟨"TRACE", "spread layers over base", record,
              some (min (layers.length - 1) layerLimit)⟩])
      ∧ ((∀ x y z, m.merge (m.merge x y) z = m.merge x (m.merge y z)) →
          ∀ layers ≠ [], ∀ blocks : List (List α), blocks.flatten = layers →
            (∀ block ∈ blocks, block ≠ []) →
            ∃ results merged, blocks.map (fun block => (m.collapse block).1) = results.map some
              ∧ (m.collapse results).1 = some merged ∧ (m.collapse layers).1 = some merged) := by
  have hRenamed (record other : String) (reports : List Report) :
      reports.map (Report.event other)
          = (reports.map (Report.event record)).map (Event.renamed other) := by
    rw [List.map_map]
    rfl
  refine ⟨m.mergeAll_append, ?_, m.events_mergeAll, m.events_collapse, ?_⟩
  · intro g hMerge record other
    constructor
    · intro base layers
      rw [Merging.mergeAll_map hMerge]
      exact ⟨rfl, hRenamed record other _⟩
    · intro layers
      rw [Merging.collapse_map hMerge]
      exact ⟨rfl, hRenamed record other _⟩
  · intro hAssoc layers hLayers blocks hFlatten hBlocks
    have h : m.AssocOn fun _ => True := ⟨fun _ _ => trivial, fun _ _ _ => hAssoc _ _ _⟩
    obtain ⟨results, hResults, -, hMerged⟩ := h.collapse_blocks hBlocks fun _ _ _ _ => trivial
    obtain ⟨merged, hSome, -⟩ := h.exists_collapse hLayers fun _ _ => trivial
    refine ⟨results, merged, hResults, ?_, hSome⟩
    rw [hMerged, hFlatten, hSome]

/-- Lists that are merged by appending them, and their lengths, which are merged by adding them;
merging in place does not commute with taking the length.  Three layers in two blocks. -/
theorem layer_helpers_lawful_for_lists :
    let lists : Merging (List Nat) := ⟨fun x y => x ++ y, fun x _ => x⟩
    let lengths : Merging Nat := ⟨fun x y => x + y, fun _ _ => 0⟩
    let blocks := [[[1], [2, 3]], [[4]]]
    (lists.mergeInPlace [1] [2, 3]).length ≠ lengths.mergeInPlace 1 2
      ∧ (∀ x y, (lists.merge x y).length = lengths.merge x.length y.length)
      ∧ (lengths.collapse (blocks.flatten.map List.length)).1 = some 4
      ∧ (lengths.collapse (blocks.flatten.map List.length)).2.map (Report.event "usize")
        = [⟨"TRACE", "spread layers over base", "usize", some 2⟩]
      ∧ (∀ x y z, lists.merge (lists.merge x y) z = lists.merge x (lists.merge y z))
      ∧ ∃ results merged, blocks.map (fun block => (lists.collapse block).1) = results.map some
          ∧ (lists.collapse results).1 = some merged
              ∧ (lists.collapse blocks.flatten).1 = some merged := by
  intro lists lengths blocks
  have hMerge (x y : List Nat) : (lists.merge x y).length = lengths.merge x.length y.length :=
    List.length_append
  have hAssoc (x y z : List Nat) :
      lists.merge (lists.merge x y) z = lists.merge x (lists.merge y z) :=
    List.append_assoc x y z
  obtain ⟨-, hMap, -, -, hBlocks⟩ := layer_helpers_lawful lists lengths
  obtain ⟨-, hCollapse⟩ := hMap List.length hMerge "Vec" "usize"
  obtain ⟨hValue, hEvents⟩ := hCollapse blocks.flatten
  exact ⟨by decide, hMerge, hValue, hEvents, hAssoc,
    hBlocks hAssoc blocks.flatten (by decide) blocks rfl (by decide)⟩

end Overlay
