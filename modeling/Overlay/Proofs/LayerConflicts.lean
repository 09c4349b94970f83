import Mathlib.Data.List.Pairwise
import Overlay.Proofs.MergeBand

/-!
The order of layers matters only where they conflict.

CONFLICT  two values of a record conflict if some field is present in both, with different contents
          (`Slots.Conflict`).  A field is merged by `Option.or`, and `a.or b` is `b.or a` unless `a`
          and `b` are present and differ (`or_comm_iff`).  So two values of a record commute exactly
          if they do not conflict (`mergedRecord_comm_iff`): a field that shows the difference is
          one that is in conflict.
SWAP      where merging is associative, two layers side by side can be merged first, wherever they
          stand (`collapse_swap`); the first layer, which is the base of the others, is not special.
ORDER     permutations are made of swaps, and what is asked of a swap holds of all pairs of layers
          (`collapse_perm`).  The helpers report numbers of layers, which no order changes.
-/

namespace Overlay

variable {α V : Type}

namespace Merging

/-! ## Changing the order of layers -/

/-- What `collapse` reports is decided by the number of layers. -/
theorem reports_collapse_eq (m : Merging α) {xs ys : List α} (h : xs.length = ys.length) :
    (m.collapse xs).2 = (m.collapse ys).2 := by
  cases xs with
  | nil =>
    obtain rfl : ys = [] := List.length_eq_zero_iff.mp h.symm
    rfl
  | cons x xs =>
    cases ys with
    | nil => nomatch h
    | cons y ys =>
      have hRest : xs.length = ys.length := Nat.succ.inj h
      rw [collapse_cons, collapse_cons, hRest]

/-- A base is one more layer in front. -/
theorem mergeAll_eq_of_collapse_eq {m : Merging α} {base : α} {xs ys : List α}
    (h : m.collapse (base :: xs) = m.collapse (base :: ys)) :
    m.mergeAll base xs = m.mergeAll base ys := by
  obtain ⟨hValue, hReports⟩ := Prod.ext_iff.mp h
  exact Prod.ext (Option.some.inj hValue) hReports

namespace AssocOn

variable {m : Merging α} {P : α → Prop} (h : m.AssocOn P)

include h

/-- **Layers side by side that commute can be swapped.** -/
theorem collapse_swap (front : List α) {x y : α} {back : List α} (hComm : m.merge x y = m.merge y x)
    (hLayers : ∀ z ∈ front ++ x :: y :: back, P z) :
    (m.collapse (front ++ y :: x :: back)).1 = (m.collapse (front ++ x :: y :: back)).1 := by
  obtain ⟨hFront, hRest⟩ := List.forall_mem_append.mp hLayers
  obtain ⟨hx, hy, hBack⟩ : P x ∧ P y ∧ ∀ z ∈ back, P z := by
    rw [← List.forall_mem_cons, ← List.forall_mem_cons]
    exact hRest
  have hSwapped : ∀ z ∈ y :: x :: back, P z :=
    List.forall_mem_cons.mpr ⟨hy, List.forall_mem_cons.mpr ⟨hx, hBack⟩⟩
  -- merged first, the two are one and the same layer
  have hPair {u v : α} (hu : P u) (hv : P v) : (m.collapse (u :: v :: back)).1
      = Option.merge m.merge (some (m.merge u v)) (m.collapse back).1 :=
    h.collapse_append (List.forall_mem_cons.mpr ⟨hu, List.forall_mem_singleton.mpr hv⟩) hBack
  rw [h.collapse_append hFront hSwapped, h.collapse_append hFront hRest, hPair hy hx,
    hPair hx hy, hComm]

/-- **Layers that commute with each other can be put in any order.**  Induction on how the one order
is made from the other. -/
theorem collapse_perm {layers others : List α} (hPerm : layers.Perm others)
    (hLayers : ∀ x ∈ layers, P x) (hComm : ∀ x ∈ layers, ∀ y ∈ layers, m.merge x y = m.merge y x) :
    (m.collapse others).1 = (m.collapse layers).1 := by
  induction hPerm with
  | nil => rfl
  | @cons x layers others hRest ih =>
    obtain ⟨hx, hTail⟩ := List.forall_mem_cons.mp hLayers
    have hOthers : ∀ y ∈ x :: others, P y :=
      List.forall_mem_cons.mpr ⟨hx, fun y hy => hTail y (hRest.mem_iff.mpr hy)⟩
    have hSame := ih hTail fun y hy z hz =>
      hComm y (List.mem_cons_of_mem x hy) z (List.mem_cons_of_mem x hz)
    rw [h.collapse_cons_eq_merge hLayers, h.collapse_cons_eq_merge hOthers, hSame]
  | swap x y rest =>
    have hxy : m.merge y x = m.merge x y :=
      hComm y List.mem_cons_self x (List.mem_cons_of_mem y List.mem_cons_self)
    exact h.collapse_swap [] hxy hLayers
  | @trans layers middle others hFirst hSecond ihFirst ihSecond =>
    have hMem {x : α} (hx : x ∈ middle) : x ∈ layers := hFirst.mem_iff.mpr hx
    have hMiddle := ihSecond (fun x hx => hLayers x (hMem hx)) fun x hx y hy =>
      hComm x (hMem hx) y (hMem hy)
    rw [hMiddle, ihFirst hLayers hComm]

end AssocOn

end Merging

/-! ## Conflicts -/

/-- Which of two contents is asked first matters only if both are present and differ. -/
theorem or_comm_iff (a b : Option V) :
    a.or b = b.or a ↔ ¬ ∃ v w, a = some v ∧ b = some w ∧ v ≠ w := by
  constructor
  · rintro hComm ⟨v, w, rfl, rfl, hNe⟩
    exact hNe (Option.some.inj hComm)
  · intro hFree
    cases a with
    | none => rw [Option.none_or, Option.or_none]
    | some v =>
      cases b with
      | none => rfl
      | some w =>
        by_cases hEq : v = w
        · rw [hEq]
        · exact absurd ⟨v, w, rfl, rfl, hEq⟩ hFree

namespace Slots

/-- Two values of a record conflict in a field that is present in both, with different contents. -/
def Conflict (d : Declaration) (x y : Slots V) : Prop :=
  ∃ field ∈ d.optionalNames, ∃ v w, x.content field = some v ∧ y.content field = some w ∧ v ≠ w

theorem Conflict.symm {d : Declaration} {x y : Slots V} (h : Conflict d x y) : Conflict d y x := by
  obtain ⟨field, hField, v, w, hx, hy, hNe⟩ := h
  exact ⟨field, hField, w, v, hy, hx, hNe.symm⟩

theorem not_conflict_self (d : Declaration) (x : Slots V) : ¬ Conflict d x x := by
  rintro ⟨field, -, v, w, hv, hw, hNe⟩
  exact hNe (Option.some.inj (hv.symm.trans hw))

end Slots

namespace Declaration

variable {d : Declaration} {m : FieldNames}

/-- **Two values of a record commute exactly if they do not conflict.** -/
theorem mergedRecord_comm_iff (distinct : d.NamesDistinct) (hFields : m.fields = d.optionalNames)
    {x y : Slots V} (hx : x.IsValueOf d) (hy : y.IsValueOf d) :
    m.mergedRecord x y = m.mergedRecord y x ↔ ¬ Slots.Conflict d x y := by
  have hxy : (m.mergedRecord x y).IsValueOf d := isValueOf_mergedRecord distinct hFields hx y
  have hyx : (m.mergedRecord y x).IsValueOf d := isValueOf_mergedRecord distinct hFields hy x
  constructor
  · rintro hComm ⟨field, hField, hDiffer⟩
    have hOr : (x.content field).or (y.content field) = (y.content field).or (x.content field) := by
      rw [← content_merged hFields y x hField, ← hComm, content_merged hFields x y hField]
    exact (or_comm_iff _ _).mp hOr hDiffer
  · intro hFree
    refine Slots.eq_of_content_eq distinct hxy hyx fun field hField => ?_
    rw [content_merged hFields x y hField, content_merged hFields y x hField]
    have hOr := (or_comm_iff (x.content field) (y.content field)).mpr fun hDiffer =>
      hFree ⟨field, hField, hDiffer⟩
    exact hOr.symm

end Declaration

/-- **Order matters only where layers conflict.**  For the values of a derived record,
    (1) merging `x` and `y` in either order gives the same exactly if no field is present in both
        with different contents;
    (2) merging layers of which no two conflict gives the same result and reports in every order of
        them;
    (3) in any layers, two side by side that do not conflict can be swapped, and both helpers give
        the same result and reports. -/
theorem order_matters_only_in_conflicts {d : Declaration} {i : Implementation}
    (accepted : d.implementation = .ok i) (distinct : d.NamesDistinct) :
    (∀ x y : Slots V, x.IsValueOf d → y.IsValueOf d →
        (i.subject.inherent.merge x y = i.subject.inherent.merge y x ↔ ¬ Slots.Conflict d x y))
      ∧ (∀ layers others : List (Slots V), (∀ layer ∈ layers, layer.IsValueOf d) →
          layers.Pairwise (¬ Slots.Conflict d · ·) → layers.Perm others →
          i.subject.trait.collapse others = i.subject.trait.collapse layers)
      ∧ ∀ (x y : Slots V) (front back : List (Slots V)),
          (∀ layer ∈ front ++ x :: y :: back, layer.IsValueOf d) → ¬ Slots.Conflict d x y →
          i.subject.trait.collapse (front ++ y :: x :: back)
              = i.subject.trait.collapse (front ++ x :: y :: back)
            ∧ ∀ base : Slots V, base.IsValueOf d →
                i.subject.trait.mergeAll base (front ++ y :: x :: back)
                  = i.subject.trait.mergeAll base (front ++ x :: y :: back) := by
  obtain ⟨m, hFields, hSubject⟩ := Declaration.exists_subject_eq (V := V) accepted
  have hAssoc := (Declaration.isRightRegularBand (V := V) distinct hFields).toAssocOn
  have hComm {x y : Slots V} (hx : x.IsValueOf d) (hy : y.IsValueOf d) :
      m.mergedRecord x y = m.mergedRecord y x ↔ ¬ Slots.Conflict d x y :=
    Declaration.mergedRecord_comm_iff distinct hFields hx hy
  rw [hSubject]
  have hSwap {x y : Slots V} {front back : List (Slots V)}
      (hLayers : ∀ layer ∈ front ++ x :: y :: back, layer.IsValueOf d)
      (hFree : ¬ Slots.Conflict d x y) :
      (Subject.ofMerge m.mergedRecord).trait.collapse (front ++ y :: x :: back)
        = (Subject.ofMerge m.mergedRecord).trait.collapse (front ++ x :: y :: back) := by
    have hx : x.IsValueOf d := hLayers x (by simp)
    have hy : y.IsValueOf d := hLayers y (by simp)
    exact Prod.ext (hAssoc.collapse_swap front ((hComm hx hy).mpr hFree) hLayers)
      (Merging.reports_collapse_eq _ (by simp))
  refine ⟨fun x y hx hy => hComm hx hy, ?_, ?_⟩
  · intro layers others hLayers hFree hPerm
    have hSymm : Std.Symm fun x y : Slots V => ¬ Slots.Conflict d x y :=
      ⟨fun _ _ hxy hyx => hxy hyx.symm⟩
    have hAll : ∀ x ∈ layers, ∀ y ∈ layers, m.mergedRecord x y = m.mergedRecord y x := by
      intro x hx y hy
      rw [hComm (hLayers x hx) (hLayers y hy)]
      exact hFree.forall_of_forall (fun z _ => Slots.not_conflict_self d z) hx hy
    exact Prod.ext (hAssoc.collapse_perm hPerm hLayers hAll)
      (Merging.reports_collapse_eq _ hPerm.length_eq.symm)
  · intro x y front back hLayers hFree
    refine ⟨hSwap hLayers hFree, fun base hBase => ?_⟩
    have hBased : ∀ layer ∈ (base :: front) ++ x :: y :: back, layer.IsValueOf d :=
      List.forall_mem_cons.mpr ⟨hBase, hLayers⟩
    exact Merging.mergeAll_eq_of_collapse_eq (hSwap hBased hFree)

/-- Three layers of which no two conflict, though two share a content, in another order; and two
layers that conflict in `a`, so that their order matters. -/
theorem order_matters_only_in_conflicts_of_pairs :
    let layers := [pairOf (some 1) none, pairOf none (some 2), pairOf (some 1) (some 2)]
    let others := [pairOf (some 1) (some 2), pairOf (some 1) none, pairOf none (some 2)]
    ∃ i, pairDeclaration.implementation = .ok i ∧ pairDeclaration.NamesDistinct
      ∧ (∀ layer ∈ layers, layer.IsValueOf pairDeclaration)
      ∧ layers.Pairwise (¬ Slots.Conflict pairDeclaration · ·) ∧ layers.Perm others
      ∧ i.subject.trait.collapse others = i.subject.trait.collapse layers
      ∧ i.subject.trait.mergeAll (pairOf (some 9) none) [pairOf none (some 2), pairOf (some 1) none]
        = i.subject.trait.mergeAll (pairOf (some 9) none)
          [pairOf (some 1) none, pairOf none (some 2)]
      ∧ Slots.Conflict pairDeclaration (pairOf (some 1) none) (pairOf (some 3) none)
      ∧ i.subject.inherent.merge (pairOf (some 1) none) (pairOf (some 3) none)
        ≠ i.subject.inherent.merge (pairOf (some 3) none) (pairOf (some 1) none) := by
  intro layers others
  have hDistinct : pairDeclaration.NamesDistinct := by
    show ["a", "b"].Nodup
    decide
  have hValue (a b : Option Nat) : (pairOf a b).IsValueOf pairDeclaration := rfl
  obtain ⟨hComm, hPerm, hSwap⟩ :=
    order_matters_only_in_conflicts (V := Nat) (d := pairDeclaration) rfl hDistinct
  have hLayers : ∀ layer ∈ layers, layer.IsValueOf pairDeclaration := by
    simp only [layers, List.forall_mem_cons, hValue, true_and]
    exact List.forall_mem_nil _
  -- that two values do not conflict is seen by merging them in both orders
  have hNone {x y : Slots Nat} (hx : x.IsValueOf pairDeclaration) (hy : y.IsValueOf pairDeclaration)
      (h : _ = _) : ¬ Slots.Conflict pairDeclaration x y := (hComm x y hx hy).mp h
  have hFree : layers.Pairwise (¬ Slots.Conflict pairDeclaration · ·) := by
    refine .cons (List.forall_mem_cons.mpr ⟨hNone rfl rfl rfl, ?_⟩)
      (.cons ?_ (List.pairwise_singleton _ _))
    · exact List.forall_mem_singleton.mpr (hNone rfl rfl rfl)
    · exact List.forall_mem_singleton.mpr (hNone rfl rfl rfl)
  have hConflict : Slots.Conflict pairDeclaration (pairOf (some 1) none) (pairOf (some 3) none) :=
    ⟨⟨"a", false⟩, by decide, 1, 3, rfl, rfl, by decide⟩
  have hOrder : layers.Perm others := by decide
  have hSide := (hSwap (pairOf (some 1) none) (pairOf none (some 2)) [] [] (by simp [hValue])
    (hNone rfl rfl rfl)).2 (pairOf (some 9) none) rfl
  exact ⟨_, rfl, hDistinct, hLayers, hFree, hOrder, hPerm layers others hLayers hFree hOrder,
    hSide, hConflict, fun h => (hComm _ _ (hValue _ _) (hValue _ _)).mp h hConflict⟩

end Overlay
