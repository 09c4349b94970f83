import Overlay.Proofs.DerivedMerge
import Overlay.Proofs.Sessions

/-!
Sessions on derived records, seen at one field.

Derived methods work on all fields of a record at once, and the layer helpers work on many records.
Yet what a session does to a field can be told from that field alone: taking the content of a field
commutes with merging (`content_mergedRecord`), so that `Subject.run_map` turns a session on records
into a session on contents.

From there both results of this file follow without a look at any step:

* `fields_never_interfere`: two sessions that agree on a field are one and the same session on
  contents. Forgetting the records altogether commutes with merging as well, and what is left is
  still enough to tell all reports.
* `contents_kept_and_traced`: a content that is present stays present, because a merge takes it over
  from either side; and a content that is held by neither the initial value nor any record is never
  held, because a merge holds what one of its sides holds.
-/

namespace Overlay

variable {V : Type}

/-! ## The content of one field -/

/-- The literal, seen at one field.  Induction on the fields: an initializer in front of the field's
own leaves its contents alone, and one behind it does not count, since the first slot of a name is
read. -/
theorem Entry.content_evalAll (fields markers : List Ident) (frame : Frame V) (g : Ident) :
    (evalAll (fields.map merged ++ markers.map marker) frame).1.content g
      = if g ∈ fields then (frame.override.content g).or (frame.receiver.content g) else none := by
  induction fields generalizing frame with
  | nil =>
    rw [List.map_nil, List.nil_append, evalAll_markers, if_neg List.not_mem_nil]
    rfl
  | cons field fields ih =>
    rw [List.map_cons, List.cons_append, evalAll_merged_cons, Slots.content_cons]
    by_cases h : field = g
    · subst h
      rw [if_pos rfl, if_pos List.mem_cons_self]
    · have hOverride : (frameAfter field frame).override.content g = frame.override.content g :=
        content_frameAfter_of_ne h .override frame
      have hReceiver : (frameAfter field frame).receiver.content g = frame.receiver.content g :=
        content_frameAfter_of_ne h .receiver frame
      have hMem : g ∈ field :: fields ↔ g ∈ fields := by
        rw [List.mem_cons, or_iff_right (Ne.symm h)]
      rw [if_neg h, ih, hOverride, hReceiver]
      simp only [hMem]

namespace FieldNames

/-- What merging makes of the contents of one field. -/
def mergeContent (m : FieldNames) (field : Ident) (held new : Option V) : Option V :=
  if field ∈ m.fields then new.or held else none

/-- **The content of a field commutes with merging.** -/
theorem content_mergedRecord (m : FieldNames) (field : Ident) (receiver override : Slots V) :
    (m.mergedRecord receiver override).content field
      = m.mergeContent field (receiver.content field) (override.content field) :=
  Entry.content_evalAll m.fields m.markers ⟨receiver, override⟩ field

/-- A merged field is present if it is present on either side. -/
theorem content_mergedRecord_ne_none {m : FieldNames} {field : Ident} (hField : field ∈ m.fields)
    {receiver override : Slots V}
    (h : receiver.content field ≠ none ∨ override.content field ≠ none) :
    (m.mergedRecord receiver override).content field ≠ none := by
  rw [content_mergedRecord, mergeContent, if_pos hField]
  intro hNone
  obtain ⟨hOverride, hReceiver⟩ := Option.or_eq_none_iff.mp hNone
  rcases h with h | h
  · exact h hReceiver
  · exact h hOverride

/-- A merge holds nothing that neither side holds. -/
theorem content_mergedRecord_ne_some {m : FieldNames} {field : Ident} {v : V}
    {receiver override : Slots V} (hReceiver : receiver.content field ≠ some v)
    (hOverride : override.content field ≠ some v) :
    (m.mergedRecord receiver override).content field ≠ some v := by
  rw [content_mergedRecord, mergeContent]
  split
  · intro hSome
    rcases Option.or_eq_some_iff.mp hSome with h | ⟨-, h⟩
    · exact hOverride h
    · exact hReceiver h
  · exact nofun

end FieldNames

/-- A derived record has one way to merge, and it merges the optional fields. -/
theorem Declaration.exists_subject_eq {d : Declaration} {i : Implementation}
    (accepted : d.implementation = .ok i) :
    ∃ m : FieldNames, m.fields = d.optionalNames
      ∧ (i.subject : Subject (Slots V)) = .ofMerge m.mergedRecord := by
  obtain ⟨m, hFields, hMerge, hInPlace⟩ := implementation_eq_ok accepted
  exact ⟨m, hFields, Implementation.subject_eq hMerge hInPlace⟩

/-! ## Two sessions -/

namespace Step

/-- Two sessions of one form: the same kinds of steps in the same order, with equally many
layers. -/
def SameForm (steps others : List (Step (Slots V))) : Prop :=
  steps.map (map fun _ => ()) = others.map (map fun _ => ())

/-- Two sessions whose records hold the same in one field, position by position. -/
def AgreeOn (field : Ident) (steps others : List (Step (Slots V))) : Prop :=
  steps.map (map (·.content field)) = others.map (map (·.content field))

end Step

/-- What a session reports and finds is decided by its form. -/
theorem Subject.outcomes_eq_of_form {α : Type} (merge : α → α → α) (init : α)
    (steps : List (Step α)) :
    ((ofMerge merge).run init steps).map (fun o => (o.reports, o.found))
      = ((ofMerge fun _ _ => ()).run () (steps.map (Step.map fun _ => ()))).map
          fun o => (o.reports, o.found) := by
  have hMap : (ofMerge fun _ _ => ()).run () (steps.map (Step.map fun _ => ()))
      = ((ofMerge merge).run init steps).map (Outcome.map fun _ => ()) :=
    run_map (g := fun _ => ()) (fun _ _ => rfl) init steps
  rw [hMap, List.map_map]
  rfl

/-- **Fields never interfere.**  Of two sessions of one form, on values of one derived record, from
    any initial values and with any records,
    (1) each step gives the same reports, and finds a result or not in both;
    (2) if the initial values and the records in the same positions hold the same in some field,
        then so do the states at every boundary, whatever the other fields hold. -/
theorem fields_never_interfere {d : Declaration} {i : Implementation}
    (accepted : d.implementation = .ok i) {init init' : Slots V}
    {steps steps' : List (Step (Slots V))} (form : Step.SameForm steps steps') :
    ((i.subject.run init steps).map fun o => (o.reports, o.found))
        = ((i.subject.run init' steps').map fun o => (o.reports, o.found))
      ∧ ∀ field, init.content field = init'.content field → Step.AgreeOn field steps steps' →
          (i.subject.states init steps).map (·.content field)
            = (i.subject.states init' steps').map (·.content field) := by
  obtain ⟨m, -, hSubject⟩ := Declaration.exists_subject_eq (V := V) accepted
  rw [hSubject]
  constructor
  · rw [Subject.outcomes_eq_of_form, Subject.outcomes_eq_of_form _ init', form]
  · intro field hInit hSteps
    have hView (start : Slots V) (session : List (Step (Slots V))) :
        ((Subject.ofMerge m.mergedRecord).states start session).map (·.content field)
          = (Subject.ofMerge (m.mergeContent field)).states (start.content field)
              (session.map (Step.map (·.content field))) :=
      (Subject.states_map (g := fun s : Slots V => s.content field) (m.content_mergedRecord field)
        start session).symm
    rw [hView, hView, hInit, hSteps]

/-- A record with two optional fields, `a` and `b`. -/
def pairDeclaration : Declaration :=
  let option : Ty := .path (.mk false [.mk ⟨"Option", false⟩ (.angled false [.type .infer] false)])
  .ofParts [] (.record [⟨[], .inherited, ⟨"a", false⟩, option, default⟩,
    ⟨[], .inherited, ⟨"b", false⟩, option, default⟩])

/-- A value of the record with two fields. -/
def pairOf (a b : Option Nat) : Slots Nat := [(⟨"a", false⟩, a), (⟨"b", false⟩, b)]

/-- Two sessions that agree on `a` and on nothing else. -/
theorem fields_never_interfere_in_pairs :
    let steps : List (Step (Slots Nat)) :=
      [.mergeUnder (pairOf (some 1) none),
        .collapse [pairOf none (some 2), pairOf (some 3) (some 4)], .mergeSelf,
        .mergeAll [pairOf none none]]
    let others : List (Step (Slots Nat)) :=
      [.mergeUnder (pairOf (some 1) (some 5)), .collapse [pairOf none none, pairOf (some 3) none],
        .mergeSelf, .mergeAll [pairOf none (some 6)]]
    ∃ i, pairDeclaration.implementation = .ok i ∧ Step.SameForm steps others
      ∧ Step.AgreeOn ⟨"a", false⟩ steps others
      ∧ (i.subject.states (pairOf none (some 7)) steps).map (·.content ⟨"a", false⟩)
        = (i.subject.states (pairOf none (some 8)) others).map (·.content ⟨"a", false⟩)
      ∧ ((i.subject.run (pairOf none (some 7)) steps).map fun o => (o.reports, o.found))
        = ((i.subject.run (pairOf none (some 8)) others).map fun o => (o.reports, o.found)) := by
  intro steps others
  have h := @fields_never_interfere Nat pairDeclaration _ rfl (pairOf none (some 7))
    (pairOf none (some 8)) steps others rfl
  exact ⟨_, rfl, rfl, rfl, h.2 ⟨"a", false⟩ rfl rfl, h.1⟩

/-! ## One session -/

/-- **Contents are kept, and none is made up.**  In a session on values of a derived record,
    (1) a step that leads from one boundary to the next leaves present what is present in a field of
        the record, except where it puts another value in place of the state: it sets one, or it
        merges layers and there is at least one;
    (2) what a state holds in a field is what the initial value holds in that field, or a record of
        some step in front of that boundary. -/
theorem contents_kept_and_traced {d : Declaration} {i : Implementation}
    (accepted : d.implementation = .ok i) (init : Slots V) (steps : List (Step (Slots V)))
    (field : Ident) :
    (∀ k next, steps[k]? = some next →
        ∃ before after, (i.subject.states init steps)[k]? = some before
          ∧ (i.subject.states init steps)[k + 1]? = some after
          ∧ (field ∈ d.optionalNames → before.content field ≠ none → after.content field = none →
              (∃ value, next = .set value) ∨ ∃ base layers, next = .collapse (base :: layers)))
      ∧ (∀ k ≤ steps.length, ∃ state, (i.subject.states init steps)[k]? = some state
          ∧ ∀ v, state.content field = some v →
              init.content field = some v
                ∨ ∃ next ∈ steps.take k, ∃ r ∈ next.records, r.content field = some v) := by
  obtain ⟨m, hFields, hSubject⟩ := Declaration.exists_subject_eq (V := V) accepted
  rw [hSubject]
  constructor
  · intro k next hNext
    obtain ⟨before, hBefore, hAfter⟩ :=
      (Subject.ofMerge m.mergedRecord).exists_boundaries init hNext
    refine ⟨before, _, hBefore, hAfter, fun hField hPresent hLost => ?_⟩
    rw [← hFields] at hField
    exact Subject.step_absorbs (P := fun s : Slots V => s.content field ≠ none)
      (fun _ _ => FieldNames.content_mergedRecord_ne_none hField) hPresent (fun h => h hLost)
  · intro k hk
    refine ⟨_, Subject.getElem?_states _ init hk, fun v hHeld => ?_⟩
    -- otherwise it is an invariant that the field does not hold `v`
    by_contra hNowhere
    obtain ⟨hInit, hRecords⟩ := not_or.mp hNowhere
    refine Subject.final_invariant (P := fun s : Slots V => s.content field ≠ some v)
      (fun _ _ => FieldNames.content_mergedRecord_ne_some) hInit ?_ hHeld
    intro next hNext r hr hContent
    exact hRecords ⟨next, hNext, r, hr, hContent⟩

/-- A session in which the second step loses `a`, by setting another value.  What the last state
holds in `a` was brought in by the step in front of it. -/
theorem contents_kept_and_traced_in_pairs :
    let steps : List (Step (Slots Nat)) :=
      [.merge (pairOf none (some 3)), .set (pairOf none (some 1)),
      .mergeAll [pairOf (some 4) none, pairOf none none]]
    ∃ i, pairDeclaration.implementation = .ok i
      ∧ i.subject.states (pairOf (some 1) (some 2)) steps
        = [pairOf (some 1) (some 2), pairOf (some 1) (some 3), pairOf none (some 1),
          pairOf (some 4) (some 1)]
      ∧ ((∃ value, steps[1]? = some (.set value))
        ∨ ∃ base layers, steps[1]? = some (.collapse (base :: layers)))
      ∧ ((pairOf (some 1) (some 2)).content ⟨"a", false⟩ = some 4
        ∨ ∃ next ∈ steps.take 3, ∃ r ∈ next.records, r.content ⟨"a", false⟩ = some 4) := by
  intro steps
  obtain ⟨hKept, hTraced⟩ := contents_kept_and_traced (d := pairDeclaration) rfl
    (pairOf (some 1) (some 2)) steps ⟨"a", false⟩
  refine ⟨_, rfl, rfl, ?_, ?_⟩
  · obtain ⟨before, after, hBefore, hAfter, hLost⟩ := hKept 1 _ rfl
    obtain rfl : _ = before := Option.some.inj hBefore
    obtain rfl : _ = after := Option.some.inj hAfter
    rcases hLost (by decide) (by decide) rfl with ⟨value, h⟩ | ⟨base, layers, h⟩
    · exact Or.inl ⟨value, congrArg some h⟩
    · exact Or.inr ⟨base, layers, congrArg some h⟩
  · obtain ⟨state, hState, hHeld⟩ := hTraced 3 (Nat.le_refl 3)
    obtain rfl : _ = state := Option.some.inj hState
    exact hHeld 4 rfl

end Overlay
