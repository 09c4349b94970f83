import Mathlib.Data.List.Induction
import Overlay.Proofs.PlainSessions

/-!
The last layer that holds something wins.

PROGRAM        the layer helpers, `Merging.mergeAll` and `Merging.collapse`, on values of a derived
               record: a left fold that merges whole records, and for `collapse` one whose base is
               the first layer.
SPECIFICATION  field by field and from the other end: a field holds what the LAST record holds that
               has something in it (`Slots.HoldsLast`), and nothing if no record has
               (`Slots.IsLastPresent`). This leaves no choice: one value alone fits
               (`IsLastPresent.unique`).

The fold is followed from its last layer (`content_foldl_mergedRecord`): the last layer is asked
first, and only where it holds nothing the fold of the layers in front of it.  This is a search
through the records in reverse, of which core knows when it finds something.

A base in which every field is absent is never asked with success, so that `collapse` gives what
`mergeAll` gives over such a base.
-/

namespace Overlay

variable {V : Type}

namespace Slots

/-- `v` is what the last of the records holds that has something in this field. -/
def HoldsLast (records : List (Slots V)) (field : Ident) (v : V) : Prop :=
  ∃ front record back, records = front ++ record :: back ∧ record.content field = some v
    ∧ ∀ later ∈ back, later.content field = none

/-- The value of a record in which each field is taken from the last of the records that has it. -/
structure IsLastPresent (d : Declaration) (records : List (Slots V)) (merged : Slots V) : Prop where
  isValueOf : merged.IsValueOf d
  content_eq_some_iff : ∀ field ∈ d.optionalNames, ∀ v,
    merged.content field = some v ↔ HoldsLast records field v
  content_eq_none_iff : ∀ field ∈ d.optionalNames,
    merged.content field = none ↔ ∀ record ∈ records, record.content field = none

/-- Searching the records in reverse finds the last content. -/
theorem findSome?_reverse_eq_some_iff {records : List (Slots V)} {field : Ident} {v : V} :
    records.reverse.findSome? (·.content field) = some v ↔ HoldsLast records field v := by
  rw [List.findSome?_eq_some_iff]
  constructor
  · rintro ⟨back, record, front, hSplit, hContent, hLater⟩
    refine ⟨front.reverse, record, back.reverse, ?_, hContent, fun later hBack => ?_⟩
    · rw [← List.reverse_reverse records, hSplit]
      simp
    · exact hLater later (List.mem_reverse.mp hBack)
  · rintro ⟨front, record, back, hSplit, hContent, hLater⟩
    refine ⟨back.reverse, record, front.reverse, ?_, hContent, fun later hBack => ?_⟩
    · rw [hSplit]
      simp
    · exact hLater later (List.mem_reverse.mp hBack)

/-- Two values of one record that hold the same are the same. -/
theorem eq_of_content_eq {d : Declaration} (distinct : d.NamesDistinct) {x y : Slots V}
    (hx : x.IsValueOf d) (hy : y.IsValueOf d)
    (h : ∀ field ∈ d.optionalNames, x.content field = y.content field) : x = y := by
  rw [eq_map_content x (Declaration.nodup_names distinct hx),
    eq_map_content y (Declaration.nodup_names distinct hy), show x.names = _ from hx,
    show y.names = _ from hy]
  refine List.map_congr_left fun field hField => ?_
  rw [h field hField]

/-- **The last present contents make one value.** -/
theorem IsLastPresent.unique {d : Declaration} (distinct : d.NamesDistinct)
    {records : List (Slots V)} {x y : Slots V} (hx : IsLastPresent d records x)
    (hy : IsLastPresent d records y) : x = y := by
  refine eq_of_content_eq distinct hx.isValueOf hy.isValueOf fun field hField => ?_
  refine Option.ext fun v => ?_
  rw [hx.content_eq_some_iff field hField, hy.content_eq_some_iff field hField]

theorem content_absent (fields : List Ident) (field : Ident) :
    (absent fields : Slots V).content field = none := by
  induction fields with
  | nil => rfl
  | cons name rest ih =>
    show content ((name, none) :: absent rest) field = none
    rw [content_cons, ih, ite_self]

theorem isValueOf_absent (d : Declaration) : (absent d.optionalNames : Slots V).IsValueOf d := by
  show (d.optionalNames.map fun field => (field, (none : Option V))).map Prod.fst = d.optionalNames
  rw [List.map_map]
  exact List.map_id' d.optionalNames

/-- A record without contents in front of others changes nothing. -/
theorem IsLastPresent.of_cons_absent {d : Declaration} {records : List (Slots V)} {merged : Slots V}
    {fields : List Ident} (h : IsLastPresent d (absent fields :: records) merged) :
    IsLastPresent d records merged := by
  refine ⟨h.isValueOf, fun field hField v => ?_, fun field hField => ?_⟩
  · rw [h.content_eq_some_iff field hField, ← findSome?_reverse_eq_some_iff,
      ← findSome?_reverse_eq_some_iff, List.reverse_cons, List.findSome?_append]
    have hNothing : [(absent fields : Slots V)].findSome? (·.content field) = none :=
      List.findSome?_eq_none_iff.mpr fun record hRecord => by
        rw [List.mem_singleton.mp hRecord]
        exact content_absent fields field
    rw [hNothing, Option.or_none]
  · rw [h.content_eq_none_iff field hField, List.forall_mem_cons]
    exact and_iff_right (content_absent fields field)

end Slots

/-! ## The fold of the layers -/

/-- **The fold holds the last content.**  Induction from the last layer: it is asked first. -/
theorem FieldNames.content_foldl_mergedRecord {m : FieldNames} {field : Ident}
    (hField : field ∈ m.fields) (layers : List (Slots V)) (base : Slots V) :
    (layers.foldl m.mergedRecord base).content field
      = (base :: layers).reverse.findSome? (·.content field) := by
  induction layers using List.reverseRecOn with
  | nil =>
    show base.content field = [base].findSome? (·.content field)
    rw [List.findSome?_cons]
    cases base.content field <;> rfl
  | append_singleton layers last ih =>
    rw [List.foldl_append, List.foldl_cons, List.foldl_nil, content_mergedRecord, mergeContent,
      if_pos hField, ih, ← List.cons_append, List.reverse_append]
    show _ = (last :: (base :: layers).reverse).findSome? (·.content field)
    rw [List.findSome?_cons]
    cases last.content field <;> rfl

namespace Declaration

variable {d : Declaration} {m : FieldNames}

/-- Merging layers over a value of a record gives a value of that record. -/
theorem isValueOf_foldl_mergedRecord (distinct : d.NamesDistinct)
    (hFields : m.fields = d.optionalNames) {base : Slots V} (hBase : base.IsValueOf d)
    (layers : List (Slots V)) :
    (layers.foldl m.mergedRecord base).IsValueOf d :=
  List.foldlRecOn (motive := fun slots => slots.IsValueOf d) layers m.mergedRecord hBase
    fun _ hSlots override _ => isValueOf_mergedRecord distinct hFields hSlots override

/-- **Folding layers over a base keeps the last present contents.** -/
theorem isLastPresent_foldl (distinct : d.NamesDistinct) (hFields : m.fields = d.optionalNames)
    {base : Slots V} (hBase : base.IsValueOf d) (layers : List (Slots V)) :
    Slots.IsLastPresent d (base :: layers) (layers.foldl m.mergedRecord base) := by
  refine ⟨isValueOf_foldl_mergedRecord distinct hFields hBase layers, fun field hField v => ?_,
    fun field hField => ?_⟩
  · rw [FieldNames.content_foldl_mergedRecord (hFields ▸ hField),
      Slots.findSome?_reverse_eq_some_iff]
  · rw [FieldNames.content_foldl_mergedRecord (hFields ▸ hField), List.findSome?_eq_none_iff]
    simp only [List.mem_reverse]

end Declaration

/-- **The last layer that holds something wins.**  For a derived record and any layers that are
values of it,
    (1) merging the layers over a base makes the value in which each field is taken from the last of
        the base and the layers that has it; it holds nothing exactly where none of them does;
    (2) merging the layers alone gives nothing exactly when there are none;
    (3) otherwise it makes the value in which each field is taken from the last of the layers that
        has it, which is what merging them over a base without contents makes. -/
theorem last_present_layer_wins {d : Declaration} {i : Implementation}
    (accepted : d.implementation = .ok i) (distinct : d.NamesDistinct) {layers : List (Slots V)}
    (hLayers : ∀ layer ∈ layers, layer.IsValueOf d) :
    (∀ base : Slots V, base.IsValueOf d →
        Slots.IsLastPresent d (base :: layers) (i.subject.trait.mergeAll base layers).1)
      ∧ ((i.subject.trait.collapse layers).1 = none ↔ layers = [])
      ∧ ∀ merged, (i.subject.trait.collapse layers).1 = some merged →
          Slots.IsLastPresent d layers merged
            ∧ merged = (i.subject.trait.mergeAll (.absent d.optionalNames) layers).1 := by
  obtain ⟨m, hFields, hSubject⟩ := Declaration.exists_subject_eq (V := V) accepted
  have hMergeAll (base : Slots V) :
      (i.subject.trait.mergeAll base layers).1 = layers.foldl m.mergedRecord base := by
    rw [hSubject, Merging.mergeAll_eq]
    rfl
  refine ⟨fun base hBase => ?_, ?_, fun merged hMerged => ?_⟩
  · rw [hMergeAll]
    exact Declaration.isLastPresent_foldl distinct hFields hBase layers
  · cases layers with
    | nil => exact ⟨fun _ => rfl, fun _ => rfl⟩
    | cons first rest =>
      rw [Merging.collapse_cons]
      exact ⟨fun h => (nomatch h), fun h => (nomatch h)⟩
  · cases layers with
    | nil => nomatch hMerged
    | cons first rest =>
      rw [hSubject, Merging.collapse_cons] at hMerged
      obtain rfl : rest.foldl m.mergedRecord first = merged := Option.some.inj hMerged
      have hFirst : first.IsValueOf d := hLayers first List.mem_cons_self
      have hLast := Declaration.isLastPresent_foldl distinct hFields hFirst rest
      -- an absent base is one record more in front, and is never asked with success
      have hAbsent := Declaration.isLastPresent_foldl distinct hFields (Slots.isValueOf_absent d)
        (first :: rest)
      refine ⟨hLast, ?_⟩
      rw [hMergeAll]
      exact hLast.unique distinct hAbsent.of_cons_absent

/-- Three layers over a base: `a` comes from the second of them, `b` from the base, and without the
base there is no `b`. -/
theorem last_present_layer_wins_in_pairs :
    let layers := [pairOf (some 1) none, pairOf (some 2) none, pairOf none none]
    ∃ i, pairDeclaration.implementation = .ok i ∧ pairDeclaration.NamesDistinct
      ∧ (∀ layer ∈ layers, layer.IsValueOf pairDeclaration)
      ∧ Slots.IsLastPresent pairDeclaration (pairOf none (some 7) :: layers)
        (pairOf (some 2) (some 7))
      ∧ (i.subject.trait.mergeAll (pairOf none (some 7)) layers).1 = pairOf (some 2) (some 7)
      ∧ Slots.IsLastPresent pairDeclaration layers (pairOf (some 2) none)
      ∧ (i.subject.trait.collapse layers).1 = some (pairOf (some 2) none) := by
  intro layers
  have hDistinct : pairDeclaration.NamesDistinct := by
    show ["a", "b"].Nodup
    decide
  have hLayers : ∀ layer ∈ layers, layer.IsValueOf pairDeclaration := by
    intro layer hLayer
    have hAll : ∀ layer ∈ layers, layer = pairOf (some 1) none ∨ layer = pairOf (some 2) none
      ∨ layer = pairOf none none := by decide
    rcases hAll layer hLayer with rfl | rfl | rfl <;> rfl
  obtain ⟨hBase, -, hMerged⟩ := last_present_layer_wins (d := pairDeclaration) rfl hDistinct hLayers
  exact ⟨_, rfl, hDistinct, hLayers, hBase (pairOf none (some 7)) rfl, rfl,
    (hMerged (pairOf (some 2) none) rfl).1, rfl⟩

end Overlay
