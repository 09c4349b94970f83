import Mathlib.Data.List.Dedup
import Mathlib.Logic.Relation
import Overlay.Proofs.LastLayer
import Overlay.Proofs.LayerLaws

/-!
Merging derived records is a right regular band, and layers that come again do not count.

LAWS     among the values of a record, merging is associative and idempotent, the value without
         contents is neutral on both sides, and merging `x` once more behind `y` makes an `x` in
         front of `y` superfluous: `x · y · x = y · x`.  Each law is one about `Option.or`, read at
         every field.
LAYERS   a layer is superfluous if it comes again later, or if it is neutral and not the only one.
         `Thins` deletes one such layer; deletions can follow each other in any order.

STEP     the law for three values reaches through any number of layers in between: a layer is
         absorbed by the result of any layers that it is among (`exists_absorbing`, by induction on
         the layers in between). With `AssocOn.collapse_append` a deletion anywhere is one at the
         front (`collapse_thins`).
RUN      so the result stays the same along all deletions (`collapse_of_thins`).  Two of their ends
         have names: the last occurrences, `List.dedup`, and the layers that are not neutral.
-/

namespace Overlay

variable {α V : Type}

namespace Merging

/-- Merging is a right regular band with identity, among the values with `P`. -/
structure IsRightRegularBand (m : Merging α) (P : α → Prop) (unit : α) :
    Prop extends m.AssocOn P where
  unit_mem : P unit
  unit_merge : ∀ {x}, P x → m.merge unit x = x
  merge_unit : ∀ {x}, P x → m.merge x unit = x
  merge_self : ∀ {x}, P x → m.merge x x = x
  merge_merge_self : ∀ {x y}, P x → P y → m.merge (m.merge x y) x = m.merge y x

/-- One layer is deleted: one that comes again later, or a neutral one that is not alone. -/
inductive Thins (unit : α) : List α → List α → Prop
  | repeated {layer : α} {back : List α} (front : List α) (again : layer ∈ back) :
      Thins unit (front ++ layer :: back) (front ++ back)
  | neutral {back : List α} (front : List α) (others : front ++ back ≠ []) :
      Thins unit (front ++ unit :: back) (front ++ back)

/-! ## Deleting layers -/

namespace IsRightRegularBand

variable {m : Merging α} {P : α → Prop} {unit : α} (h : m.IsRightRegularBand P unit)

include h

/-- **The result of layers absorbs each of them.**  Induction on the layers in front of it. -/
theorem exists_absorbing {x : α} {layers : List α} (hMem : x ∈ layers)
    (hLayers : ∀ y ∈ layers, P y) :
    ∃ merged, (m.collapse layers).1 = some merged ∧ P merged ∧ m.merge x merged = merged := by
  have hx : P x := hLayers x hMem
  induction layers with
  | nil => nomatch hMem
  | cons y rest ih =>
    obtain ⟨hy, hRest⟩ := List.forall_mem_cons.mp hLayers
    have hCollapse := h.collapse_cons_eq_merge hLayers
    by_cases hAgain : x ∈ rest
    · obtain ⟨r, hr, hP, hAbsorbs⟩ := ih hAgain hRest
      refine ⟨m.merge y r, by rw [hCollapse, hr]; rfl, h.merge_mem hy hP, ?_⟩
      -- `r` is `x · r`, so that `x` stands on both sides of `y`
      have hxy : P (m.merge x y) := h.merge_mem hx hy
      calc m.merge x (m.merge y r)
          = m.merge (m.merge x y) (m.merge x r) := by rw [hAbsorbs, h.assoc hx hy hP]
        _ = m.merge (m.merge (m.merge x y) x) r := (h.assoc hxy hx hP).symm
        _ = m.merge (m.merge y x) r := by rw [h.merge_merge_self hx hy]
        _ = m.merge y r := by rw [h.assoc hy hx hP, hAbsorbs]
    · obtain rfl : x = y := (List.mem_cons.mp hMem).resolve_right hAgain
      cases rest with
      | nil => exact ⟨x, rfl, hx, h.merge_self hx⟩
      | cons z rest =>
        obtain ⟨r, hr, hP⟩ := h.exists_collapse (List.cons_ne_nil z rest) hRest
        refine ⟨m.merge x r, by rw [hCollapse, hr]; rfl, h.merge_mem hx hP, ?_⟩
        rw [← h.assoc hx hx hP, h.merge_self hx]

/-- A layer in front of others that has itself among them does not count. -/
theorem collapse_cons_of_mem {x : α} {rest : List α} (hMem : x ∈ rest) (hRest : ∀ y ∈ rest, P y) :
    (m.collapse (x :: rest)).1 = (m.collapse rest).1 := by
  obtain ⟨merged, hMerged, -, hAbsorbs⟩ := h.exists_absorbing hMem hRest
  have hLayers : ∀ y ∈ x :: rest, P y := List.forall_mem_cons.mpr ⟨hRest x hMem, hRest⟩
  rw [h.collapse_cons_eq_merge hLayers, hMerged]
  exact congrArg some hAbsorbs

/-- A neutral layer that is not alone does not count. -/
theorem collapse_append_unit_cons {front back : List α} (hOthers : front ++ back ≠ [])
    (hFront : ∀ y ∈ front, P y) (hBack : ∀ y ∈ back, P y) :
    (m.collapse (front ++ unit :: back)).1 = (m.collapse (front ++ back)).1 := by
  have hUnit : ∀ y ∈ unit :: back, P y := List.forall_mem_cons.mpr ⟨h.unit_mem, hBack⟩
  rw [h.collapse_append hFront hUnit, h.collapse_append hFront hBack,
    h.collapse_cons_eq_merge hUnit]
  by_cases hNe : back = []
  · -- then it is the layers in front that it is merged into
    subst hNe
    rw [List.append_nil] at hOthers
    obtain ⟨x, hx, hP⟩ := h.exists_collapse hOthers hFront
    rw [hx]
    exact congrArg some (h.merge_unit hP)
  · obtain ⟨y, hy, hP⟩ := h.exists_collapse hNe hBack
    have hMerge : Option.merge m.merge (some unit) (some y) = some y :=
      congrArg some (h.unit_merge hP)
    rw [hy, hMerge]

/-- **One deletion leaves the result as it is**, and leaves values with `P`. -/
theorem collapse_thins {layers kept : List α} (hThins : Thins unit layers kept)
    (hLayers : ∀ y ∈ layers, P y) :
    (m.collapse kept).1 = (m.collapse layers).1 ∧ ∀ y ∈ kept, P y := by
  cases hThins with
  | repeated front hAgain =>
    obtain ⟨hFront, hRest⟩ := List.forall_mem_append.mp hLayers
    obtain ⟨-, hBack⟩ := List.forall_mem_cons.mp hRest
    refine ⟨?_, List.forall_mem_append.mpr ⟨hFront, hBack⟩⟩
    rw [h.collapse_append hFront hRest, h.collapse_append hFront hBack,
      h.collapse_cons_of_mem hAgain hBack]
  | neutral front hOthers =>
    obtain ⟨hFront, hRest⟩ := List.forall_mem_append.mp hLayers
    obtain ⟨-, hBack⟩ := List.forall_mem_cons.mp hRest
    exact ⟨(h.collapse_append_unit_cons hOthers hFront hBack).symm,
      List.forall_mem_append.mpr ⟨hFront, hBack⟩⟩

/-- **Deleting superfluous layers leaves the result as it is**, in any order and as often as there
are any. -/
theorem collapse_of_thins {layers kept : List α}
    (hThins : Relation.ReflTransGen (Thins unit) layers kept) (hLayers : ∀ y ∈ layers, P y) :
    (m.collapse kept).1 = (m.collapse layers).1 := by
  induction hThins using Relation.ReflTransGen.head_induction_on with
  | refl => rfl
  | head hFirst _ ih =>
    obtain ⟨hSame, hKept⟩ := h.collapse_thins hFirst hLayers
    rw [ih hKept, hSame]

end IsRightRegularBand

/-! ## Where deletions can lead -/

namespace Thins

variable {unit : α}

/-- Deletions behind a layer. -/
theorem cons (x : α) {layers kept : List α} (h : Thins unit layers kept) :
    Thins unit (x :: layers) (x :: kept) := by
  cases h with
  | repeated front again => exact repeated (x :: front) again
  | neutral front others => exact neutral (x :: front) (List.cons_ne_nil x _)

/-- The last occurrences are what is left when every layer that comes again is deleted. -/
theorem dedup [DecidableEq α] (layers : List α) :
    Relation.ReflTransGen (Thins unit) layers layers.dedup := by
  induction layers with
  | nil => exact .refl
  | cons x rest ih =>
    by_cases hMem : x ∈ rest
    · rw [List.dedup_cons_of_mem hMem]
      exact .head (repeated [] hMem) ih
    · rw [List.dedup_cons_of_notMem hMem]
      exact ih.lift (x :: ·) fun _ _ => cons x

/-- All neutral layers can be deleted, if there are others.  Induction on the layers; those that
stay are put in front, where they are what the neutral ones are not alone with. -/
theorem filter [DecidableEq α] (front layers : List α)
    (hNe : front ++ layers.filter (· ≠ unit) ≠ []) :
    Relation.ReflTransGen (Thins unit) (front ++ layers) (front ++ layers.filter (· ≠ unit)) := by
  induction layers generalizing front with
  | nil => exact .refl
  | cons x rest ih =>
    by_cases hUnit : x = unit
    · subst hUnit
      rw [List.filter_cons_of_neg (by simp)] at hNe ⊢
      have hOthers : front ++ rest ≠ [] := by
        intro hNil
        obtain ⟨rfl, rfl⟩ := List.append_eq_nil_iff.mp hNil
        exact hNe rfl
      exact .head (neutral front hOthers) (ih front hNe)
    · have hStays : (x :: rest).filter (· ≠ unit) = x :: rest.filter (· ≠ unit) :=
        List.filter_cons_of_pos (decide_eq_true hUnit)
      rw [hStays] at hNe ⊢
      have hRest := ih (front ++ [x]) (by simp)
      rw [List.append_assoc, List.append_assoc] at hRest
      exact hRest

end Thins

end Merging

/-! ## Derived records -/

namespace Declaration

variable {d : Declaration} {m : FieldNames}

/-- The contents of a merged record, at its fields. -/
theorem content_merged (hFields : m.fields = d.optionalNames) (x y : Slots V) {field : Ident}
    (hField : field ∈ d.optionalNames) :
    (m.mergedRecord x y).content field = (y.content field).or (x.content field) := by
  rw [FieldNames.content_mergedRecord, FieldNames.mergeContent, if_pos (hFields ▸ hField)]

/-- **Merging the values of a record is a right regular band.**  The values on both sides of each
law are compared field by field. -/
theorem isRightRegularBand (distinct : d.NamesDistinct) (hFields : m.fields = d.optionalNames) :
    (Subject.ofMerge (m.mergedRecord (V := V))).trait.IsRightRegularBand (·.IsValueOf d)
      (.absent d.optionalNames) := by
  have hMem {x : Slots V} (hx : x.IsValueOf d) (y : Slots V) : (m.mergedRecord x y).IsValueOf d :=
    isValueOf_mergedRecord distinct hFields hx y
  have hUnit : (Slots.absent d.optionalNames : Slots V).IsValueOf d := Slots.isValueOf_absent d
  have hAssoc {x y z : Slots V} (hx : x.IsValueOf d) :
      m.mergedRecord (m.mergedRecord x y) z = m.mergedRecord x (m.mergedRecord y z) := by
    refine Slots.eq_of_content_eq distinct (hMem (hMem hx y) z) (hMem hx _) fun field hField => ?_
    simp only [content_merged hFields _ _ hField, Option.or_assoc]
  have hLeft {x : Slots V} (hx : x.IsValueOf d) :
      m.mergedRecord (.absent d.optionalNames) x = x := by
    refine Slots.eq_of_content_eq distinct (hMem hUnit x) hx fun field hField => ?_
    rw [content_merged hFields _ _ hField, Slots.content_absent, Option.or_none]
  have hRight {x : Slots V} (hx : x.IsValueOf d) :
      m.mergedRecord x (.absent d.optionalNames) = x := by
    refine Slots.eq_of_content_eq distinct (hMem hx _) hx fun field hField => ?_
    rw [content_merged hFields _ _ hField, Slots.content_absent, Option.none_or]
  have hAgain {x y : Slots V} (hx : x.IsValueOf d) (hy : y.IsValueOf d) :
      m.mergedRecord (m.mergedRecord x y) x = m.mergedRecord y x := by
    refine Slots.eq_of_content_eq distinct (hMem (hMem hx y) x) (hMem hy x) fun field hField => ?_
    simp only [content_merged hFields _ _ hField]
    -- the `x` that came first is asked last, and then it is known to hold nothing
    cases x.content field with
    | none => rw [Option.none_or, Option.none_or, Option.or_none]
    | some v => rfl
  exact {
    merge_mem := fun hx _ => hMem hx _
    assoc := fun hx _ _ => hAssoc hx
    unit_mem := hUnit
    unit_merge := hLeft
    merge_unit := hRight
    merge_self := mergedRecord_self distinct hFields
    merge_merge_self := hAgain }

end Declaration

/-- **Merging is a right regular band with identity.**  For a derived record,
    (1) merging is, among the values of the record, associative and idempotent, has the value
        without contents as its identity on both sides, and satisfies `x · y · x = y · x`; this
        holds for the record's own method and for that of the trait;
    (2) layers can be deleted that come again later, and layers without contents that are not alone,
        in any order and number, and merging what is left gives the same;
    (3) so it does if all layers but the last of equal ones are deleted,
    (4) and if all layers without contents are, where there are others. -/
theorem merging_is_right_regular_band [DecidableEq V] {d : Declaration} {i : Implementation}
    (accepted : d.implementation = .ok i) (distinct : d.NamesDistinct) :
    (i.subject : Subject (Slots V)).inherent.IsRightRegularBand (·.IsValueOf d)
        (.absent d.optionalNames)
      ∧ (i.subject : Subject (Slots V)).trait.IsRightRegularBand (·.IsValueOf d)
        (.absent d.optionalNames)
      ∧ ∀ layers : List (Slots V), (∀ layer ∈ layers, layer.IsValueOf d) →
          (∀ kept, Relation.ReflTransGen (Merging.Thins (.absent d.optionalNames)) layers kept →
              (i.subject.trait.collapse kept).1 = (i.subject.trait.collapse layers).1)
            ∧ (i.subject.trait.collapse layers.dedup).1 = (i.subject.trait.collapse layers).1
            ∧ (layers.filter (· ≠ .absent d.optionalNames) ≠ [] →
                (i.subject.trait.collapse (layers.filter (· ≠ .absent d.optionalNames))).1
                  = (i.subject.trait.collapse layers).1) := by
  obtain ⟨m, hFields, hSubject⟩ := Declaration.exists_subject_eq (V := V) accepted
  have hBand := Declaration.isRightRegularBand (V := V) distinct hFields
  rw [hSubject]
  refine ⟨hBand, hBand, fun layers hLayers => ⟨fun kept hThins => ?_, ?_, fun hNe => ?_⟩⟩
  · exact hBand.collapse_of_thins hThins hLayers
  · exact hBand.collapse_of_thins (Merging.Thins.dedup layers) hLayers
  · exact hBand.collapse_of_thins (Merging.Thins.filter [] layers hNe) hLayers

/-- Five layers: the first comes again, and two are without contents. -/
theorem merging_is_right_regular_band_in_pairs :
    let layers := [pairOf (some 1) (some 2), pairOf none none, pairOf (some 3) none,
      pairOf (some 1) (some 2), pairOf none none]
    ∃ i, pairDeclaration.implementation = .ok i ∧ pairDeclaration.NamesDistinct
      ∧ (∀ layer ∈ layers, layer.IsValueOf pairDeclaration)
      ∧ (i.subject.trait.collapse
        [pairOf (some 3) none, pairOf (some 1) (some 2), pairOf none none]).1
        = (i.subject.trait.collapse layers).1
      ∧ (i.subject.trait.collapse
          [pairOf (some 1) (some 2), pairOf (some 3) none, pairOf (some 1) (some 2)]).1
        = (i.subject.trait.collapse layers).1
      ∧ i.subject.inherent.merge
          (i.subject.inherent.merge (pairOf (some 1) none) (pairOf (some 3) (some 4)))
          (pairOf (some 1) none)
        = i.subject.inherent.merge (pairOf (some 3) (some 4)) (pairOf (some 1) none) := by
  intro layers
  have hDistinct : pairDeclaration.NamesDistinct := by
    show ["a", "b"].Nodup
    decide
  have hLayers : ∀ layer ∈ layers, layer.IsValueOf pairDeclaration := by
    intro layer hLayer
    have hAll : ∀ layer ∈ layers, layer = pairOf (some 1) (some 2) ∨ layer = pairOf none none
      ∨ layer = pairOf (some 3) none := by decide
    rcases hAll layer hLayer with rfl | rfl | rfl <;> rfl
  obtain ⟨hBand, -, hList⟩ := merging_is_right_regular_band (V := Nat) (d := pairDeclaration)
    rfl hDistinct
  obtain ⟨-, hDedup, hFilter⟩ := hList layers hLayers
  exact ⟨_, rfl, hDistinct, hLayers, hDedup, hFilter (by decide), hBand.merge_merge_self rfl rfl⟩

end Overlay
