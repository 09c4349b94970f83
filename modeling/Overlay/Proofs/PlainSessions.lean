import Overlay.Proofs.FieldSessions

/-!
Every way of merging is plain merging.

A session has nine kinds of steps.  Two of them are plain: to set the state, and to merge one record
into it by the record's own method.  `Step.plain` rewrites a step into plain ones, given the state
that it is taken at; `Subject.plainBlocks` rewrites a session, one block of plain steps for each
step.

STEP     a block leads from a state to where its step leads (`final_plain`).  Eight kinds of steps
         ask for nothing here but that there is one way to merge; merging a state with itself is
         dropped, and for this the merge has to be idempotent on the states that are reached.
SESSION  the blocks one after another visit the states of the session at the ends of the blocks
         (`final_plainBlocks`, by induction on the steps).  The invariant is that states are values
         of the record, which is where the merge is idempotent (`mergedRecord_self`).
-/

namespace Overlay

variable {α V : Type}

/-! ## Rewriting -/

namespace Step

/-- Is this a plain step? -/
def IsPlain : Step α → Prop
  | set _ => True
  | merge _ => True
  | _ => False

/-- Plain steps that do what a step does at this state. -/
def plain (state : α) : Step α → List (Step α)
  | set value => [set value]
  | merge override => [merge override]
  | mergeInPlace override => [merge override]
  | traitMerge override => [merge override]
  | traitMergeInPlace override => [merge override]
  | mergeSelf => []
  | mergeUnder base => [set base, merge state]
  | mergeAll layers => layers.map merge
  | collapse [] => []
  | collapse (base :: layers) => set base :: layers.map merge

theorem isPlain_of_mem_plain {state : α} {next s : Step α} (h : s ∈ next.plain state) :
    s.IsPlain := by
  have hLayers {layers : List α} (hs : s ∈ layers.map merge) : s.IsPlain := by
    obtain ⟨_, _, rfl⟩ := List.mem_map.mp hs
    trivial
  cases next with
  | set value => obtain rfl := List.mem_singleton.mp h; trivial
  | merge override => obtain rfl := List.mem_singleton.mp h; trivial
  | mergeInPlace override => obtain rfl := List.mem_singleton.mp h; trivial
  | traitMerge override => obtain rfl := List.mem_singleton.mp h; trivial
  | traitMergeInPlace override => obtain rfl := List.mem_singleton.mp h; trivial
  | mergeSelf => nomatch h
  | mergeUnder base =>
    rcases List.mem_cons.mp h with rfl | h
    · trivial
    · obtain rfl := List.mem_singleton.mp h
      trivial
  | mergeAll layers => exact hLayers h
  | collapse layers =>
    cases layers with
    | nil => nomatch h
    | cons base rest =>
      rcases List.mem_cons.mp h with rfl | h
      · trivial
      · exact hLayers h

end Step

namespace Subject

/-- A session, rewritten: one block of plain steps for each step, at the state that the session has
reached there. -/
def plainBlocks (subject : Subject α) (state : α) : List (Step α) → List (List (Step α))
  | [] => []
  | next :: rest => next.plain state :: plainBlocks subject (subject.step state next).state rest

theorem plainBlocks_take (subject : Subject α) (state : α) (steps : List (Step α)) (k : Nat) :
    subject.plainBlocks state (steps.take k) = (subject.plainBlocks state steps).take k := by
  induction steps generalizing state k with
  | nil => rw [List.take_nil, plainBlocks, List.take_nil]
  | cons next rest ih =>
    cases k with
    | zero => rfl
    | succ k => rw [List.take_succ_cons, plainBlocks, ih, plainBlocks, List.take_succ_cons]

theorem isPlain_of_mem_plainBlocks {subject : Subject α} {state : α} {steps : List (Step α)}
    {s : Step α} (h : s ∈ (subject.plainBlocks state steps).flatten) : s.IsPlain := by
  induction steps generalizing state with
  | nil => nomatch h
  | cons next rest ih =>
    rw [plainBlocks, List.flatten_cons, List.mem_append] at h
    rcases h with h | h
    · exact Step.isPlain_of_mem_plain h
    · exact ih h

/-! ## Rewritten steps lead to the same states -/

variable {merge : α → α → α}

theorem final_map_merge (state : α) (layers : List α) :
    (ofMerge merge).final state (layers.map .merge) = layers.foldl merge state := by
  induction layers generalizing state with
  | nil => rfl
  | cons layer rest ih => exact ih (merge state layer)

/-- **A block leads where its step leads.** -/
theorem final_plain {state : α} (hSelf : merge state state = state) (next : Step α) :
    (ofMerge merge).final state (next.plain state) = ((ofMerge merge).step state next).state := by
  cases next with
  | set value => rfl
  | merge override => rfl
  | mergeInPlace override => rfl
  | traitMerge override => rfl
  | traitMergeInPlace override => rfl
  | mergeSelf =>
    -- the only step that merges and leaves no plain step behind
    exact hSelf.symm
  | mergeUnder base => rfl
  | mergeAll layers => rw [step_mergeAll, Step.plain, final_map_merge]
  | collapse layers =>
    cases layers with
    | nil => rfl
    | cons base rest =>
      rw [step_collapse_cons, Step.plain]
      exact final_map_merge base rest

/-- **The blocks of a session lead where the session leads**, if merging is idempotent on states
with an invariant. -/
theorem final_plainBlocks {P : α → Prop} (hMerge : ∀ x y, P x → P y → P (merge x y))
    (hSelf : ∀ x, P x → merge x x = x) {init : α} {steps : List (Step α)} (hInit : P init)
    (hRecords : ∀ next ∈ steps, ∀ r ∈ next.records, P r) :
    (ofMerge merge).final init ((ofMerge merge).plainBlocks init steps).flatten
      = (ofMerge merge).final init steps := by
  induction steps generalizing init with
  | nil => rfl
  | cons next rest ih =>
    have hNext := step_invariant hMerge hInit (hRecords next List.mem_cons_self)
    have hRest := ih hNext fun later hLater => hRecords later (List.mem_cons_of_mem next hLater)
    rw [plainBlocks, List.flatten_cons, final_append, final_plain (hSelf init hInit), hRest]
    rfl

/-- The same at every boundary: behind `k` blocks, the rewritten session is where the session is
behind `k` steps. -/
theorem getElem?_states_plainBlocks {P : α → Prop} (hMerge : ∀ x y, P x → P y → P (merge x y))
    (hSelf : ∀ x, P x → merge x x = x) {init : α} {steps : List (Step α)} (hInit : P init)
    (hRecords : ∀ next ∈ steps, ∀ r ∈ next.records, P r) (k : Nat) :
    ((ofMerge merge).states init ((ofMerge merge).plainBlocks init steps).flatten)[
        (((ofMerge merge).plainBlocks init steps).take k).flatten.length]?
      = some ((ofMerge merge).final init (steps.take k)) := by
  -- the first `k` blocks are a session of their own, with the others behind it
  have hSplit : ((ofMerge merge).plainBlocks init steps).flatten
      = (((ofMerge merge).plainBlocks init steps).take k).flatten
        ++ (((ofMerge merge).plainBlocks init steps).drop k).flatten := by
    rw [← List.flatten_append, List.take_append_drop]
  have hTake : ∀ next ∈ steps.take k, ∀ r ∈ next.records, P r :=
    fun next hNext => hRecords next (List.mem_of_mem_take hNext)
  rw [hSplit, getElem?_states _ _ (by rw [List.length_append]; omega), List.take_left,
    ← plainBlocks_take, final_plainBlocks hMerge hSelf hInit hTake]

end Subject

/-! ## Derived records -/

theorem Slots.overlay_self (slots : Slots V) (h : slots.names.Nodup) :
    slots.overlay slots = slots := by
  rw [overlay_eq_map_names slots slots h]
  simp only [Option.or_self]
  exact (eq_map_content slots h).symm

namespace Declaration

variable {d : Declaration} {m : FieldNames}

theorem nodup_names (distinct : d.NamesDistinct) {slots : Slots V} (h : slots.IsValueOf d) :
    slots.names.Nodup := by
  rw [h]
  exact optionalNames_nodup distinct

/-- Merging is the documented merge, on values of the record. -/
theorem mergedRecord_eq (distinct : d.NamesDistinct) (hFields : m.fields = d.optionalNames)
    {receiver : Slots V} (hReceiver : receiver.IsValueOf d) (override : Slots V) :
    m.mergedRecord receiver override = receiver.overlay override :=
  FieldNames.mergedRecord_eq_overlay (hFields.trans hReceiver.symm)
    (nodup_names distinct hReceiver) override

/-- Merging two values of a record gives a value of that record. -/
theorem isValueOf_mergedRecord (distinct : d.NamesDistinct) (hFields : m.fields = d.optionalNames)
    {receiver : Slots V} (hReceiver : receiver.IsValueOf d) (override : Slots V) :
    (m.mergedRecord receiver override).IsValueOf d := by
  rw [mergedRecord_eq distinct hFields hReceiver, Slots.IsValueOf, Slots.names_overlay]
  exact hReceiver

/-- Merging a value of a record with itself changes nothing. -/
theorem mergedRecord_self (distinct : d.NamesDistinct) (hFields : m.fields = d.optionalNames)
    {slots : Slots V} (h : slots.IsValueOf d) : m.mergedRecord slots slots = slots := by
  rw [mergedRecord_eq distinct hFields h, slots.overlay_self (nodup_names distinct h)]

end Declaration

/-- **Every way of merging is plain merging.**  A session on values of a derived record, in which
    every step is rewritten into plain steps,
    (1) sets the state and merges by the record's own method, and does nothing else;
    (2) is behind the plain steps of the first `k` steps in the state that the session is in behind
        these steps, for every `k`. -/
theorem sessions_are_plain {d : Declaration} {i : Implementation}
    (accepted : d.implementation = .ok i) (distinct : d.NamesDistinct) {init : Slots V}
    {steps : List (Step (Slots V))} (hInit : init.IsValueOf d)
    (hRecords : ∀ next ∈ steps, ∀ r ∈ next.records, r.IsValueOf d) :
    (∀ s ∈ (i.subject.plainBlocks init steps).flatten, s.IsPlain)
      ∧ ∀ k ≤ steps.length, ∃ state, (i.subject.states init steps)[k]? = some state
          ∧ (i.subject.states init (i.subject.plainBlocks init steps).flatten)[
              ((i.subject.plainBlocks init steps).take k).flatten.length]? = some state := by
  obtain ⟨m, hFields, hSubject⟩ := Declaration.exists_subject_eq (V := V) accepted
  rw [hSubject]
  have hMerge (x y : Slots V) (hx : x.IsValueOf d) (_ : y.IsValueOf d) :
      (m.mergedRecord x y).IsValueOf d := Declaration.isValueOf_mergedRecord distinct hFields hx y
  have hSelf (x : Slots V) (hx : x.IsValueOf d) : m.mergedRecord x x = x :=
    Declaration.mergedRecord_self distinct hFields hx
  refine ⟨fun s hs => Subject.isPlain_of_mem_plainBlocks hs, fun k hk => ?_⟩
  exact ⟨_, Subject.getElem?_states _ init hk,
    Subject.getElem?_states_plainBlocks hMerge hSelf hInit hRecords k⟩

/-- One step of each kind, layers of all lengths up to two, and the plain steps that they come
to. -/
theorem sessions_are_plain_in_pairs :
    let x := pairOf (some 1) none
    let y := pairOf none (some 2)
    let z := pairOf (some 3) (some 4)
    let steps : List (Step (Slots Nat)) :=
      [.merge x, .mergeInPlace y, .traitMerge z, .traitMergeInPlace x, .mergeSelf, .mergeUnder y,
        .mergeAll [x, y], .collapse [], .collapse [z, x], .set y]
    ∃ i, pairDeclaration.implementation = .ok i
      ∧ (i.subject.plainBlocks x steps).flatten = [.merge x, .merge y, .merge z, .merge x,
          .set y, .merge (pairOf (some 1) (some 4)), .merge x, .merge y, .set z, .merge x, .set y]
      ∧ ∀ k ≤ 10, ∃ state, (i.subject.states x steps)[k]? = some state
          ∧ (i.subject.states x (i.subject.plainBlocks x steps).flatten)[
              ((i.subject.plainBlocks x steps).take k).flatten.length]? = some state := by
  intro x y z steps
  have hValue (a b : Option Nat) : (pairOf a b).IsValueOf pairDeclaration := rfl
  have hDistinct : pairDeclaration.NamesDistinct := by
    show ["a", "b"].Nodup
    decide
  have hRecords : ∀ next ∈ steps, ∀ r ∈ next.records, r.IsValueOf pairDeclaration := by
    intro next hNext r hr
    have hr : r ∈ steps.flatMap Step.records := List.mem_flatMap.mpr ⟨next, hNext, hr⟩
    have hAll : ∀ r ∈ steps.flatMap Step.records, r = x ∨ r = y ∨ r = z := by decide
    rcases hAll r hr with rfl | rfl | rfl <;> rfl
  exact ⟨_, rfl, rfl, (sessions_are_plain rfl hDistinct (hValue _ _) hRecords).2⟩

end Overlay
