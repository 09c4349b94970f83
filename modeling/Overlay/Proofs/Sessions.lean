import Overlay.Merge.Session

/-!
Sessions, step by step and as a whole.

DATA      a session is a list of steps.  `Subject.states` lists the states at its boundaries: the
          initial one, and one behind each step.
PROGRAM   `Subject.run`, for a type that has ONE way to merge (`Subject.ofMerge`): its four methods
          are the same function.  Derived records are such types.
THEORY    what a step can do is said once (`step_cases`), and what is true of a merge of two values
          is then true of a session.  There are three forms of this:
          (1) a property that merging preserves is an invariant, as long as the records that are
              brought in have it (`step_invariant`, `final_invariant`);
          (2) a property that a merged value has as soon as one of its parts has it is never lost,
              except where a step puts another value in place of the state (`step_absorbs`);
          (3) a function that commutes with merging takes sessions to sessions (`step_map`,
              `run_map`). What the helpers report, and whether they find a result, is the same on
              both sides.

The layer helpers are folds with a counter (`mergeAll_eq`), so that each form needs its merge only.
-/

namespace Overlay

variable {α β : Type}

/-! ## Layers are folded -/

namespace Merging

variable (m : Merging α)

/-- The counter runs along with the fold, and stays at its limit. -/
theorem foldl_counted (layers : List α) (base : α) {count : Nat} (h : count ≤ layerLimit) :
    layers.foldl (fun (merged, count) layer => (m.merge merged layer, countLayer count))
        (base, count)
      = (layers.foldl m.merge base, min (count + layers.length) layerLimit) := by
  induction layers generalizing base count with
  | nil =>
    show (base, count) = (base, min (count + 0) layerLimit)
    rw [Nat.add_zero, Nat.min_eq_left h]
  | cons layer rest ih =>
    have hCount : countLayer count ≤ layerLimit := Nat.min_le_right _ _
    have hLength : min (countLayer count + rest.length) layerLimit
        = min (count + (rest.length + 1)) layerLimit := by
      unfold countLayer
      omega
    rw [List.foldl_cons, List.foldl_cons, List.length_cons, ← hLength]
    exact ih (m.merge base layer) hCount

/-- Merging all layers is a fold, with one report of their number. -/
theorem mergeAll_eq (base : α) (layers : List α) :
    m.mergeAll base layers
      = (layers.foldl m.merge base, [.merged (min layers.length layerLimit)]) := by
  rw [mergeAll, m.foldl_counted layers base (Nat.zero_le layerLimit), Nat.zero_add]

/-- Merging layers without a base is a fold from the first of them. -/
theorem collapse_cons (base : α) (layers : List α) :
    m.collapse (base :: layers)
      = (some (layers.foldl m.merge base), [.merged (min layers.length layerLimit)]) := by
  rw [collapse, mergeAll_eq]

variable {m} {n : Merging β} {g : α → β}

/-- **A function that commutes with merging commutes with merging layers over a base.** -/
theorem mergeAll_map (hMerge : ∀ x y, g (m.merge x y) = n.merge (g x) (g y)) (base : α)
    (layers : List α) :
    n.mergeAll (g base) (layers.map g)
      = (g (m.mergeAll base layers).1, (m.mergeAll base layers).2) := by
  have hFold : (layers.map g).foldl n.merge (g base) = g (layers.foldl m.merge base) := by
    rw [List.foldl_map]
    exact List.foldl_hom g fun x y => (hMerge x y).symm
  rw [mergeAll_eq, mergeAll_eq, hFold, List.length_map]

/-- **A function that commutes with merging commutes with merging layers.** -/
theorem collapse_map (hMerge : ∀ x y, g (m.merge x y) = n.merge (g x) (g y)) (layers : List α) :
    n.collapse (layers.map g) = ((m.collapse layers).1.map g, (m.collapse layers).2) := by
  cases layers with
  | nil => rfl
  | cons base rest =>
    rw [List.map_cons, collapse, mergeAll_map hMerge]
    rfl

end Merging

/-! ## Steps and boundaries -/

namespace Step

/-- The records that a step brings in, in order. -/
def records : Step α → List α
  | set value => [value]
  | merge override => [override]
  | mergeInPlace override => [override]
  | traitMerge override => [override]
  | traitMergeInPlace override => [override]
  | mergeSelf => []
  | mergeUnder base => [base]
  | mergeAll layers => layers
  | collapse layers => layers

/-- The same step with other records: each one is replaced by what `g` makes of it. -/
def map (g : α → β) : Step α → Step β
  | set value => set (g value)
  | merge override => merge (g override)
  | mergeInPlace override => mergeInPlace (g override)
  | traitMerge override => traitMerge (g override)
  | traitMergeInPlace override => traitMergeInPlace (g override)
  | mergeSelf => mergeSelf
  | mergeUnder base => mergeUnder (g base)
  | mergeAll layers => mergeAll (layers.map g)
  | collapse layers => collapse (layers.map g)

end Step

/-- The same outcome with another state. -/
def Outcome.map (g : α → β) (o : Outcome α) : Outcome β := ⟨g o.state, o.reports, o.found⟩

namespace Subject

/-- A type that has one way to merge, which all four methods follow. -/
def ofMerge (merge : α → α → α) : Subject α := ⟨⟨merge, merge⟩, ⟨merge, merge⟩⟩

/-- The states at the boundaries of a session: the initial one, and the one behind each step. -/
def states (subject : Subject α) (init : α) (steps : List (Step α)) : List α :=
  init :: (subject.run init steps).map (·.state)

/-- The state that a session ends in. -/
def final (subject : Subject α) (init : α) : List (Step α) → α
  | [] => init
  | next :: rest => final subject (subject.step init next).state rest

theorem final_append (subject : Subject α) (init : α) (front back : List (Step α)) :
    subject.final init (front ++ back) = subject.final (subject.final init front) back := by
  induction front generalizing init with
  | nil => rfl
  | cons next rest ih => exact ih (subject.step init next).state

/-- **The state at a boundary is what the steps in front of it lead to.** -/
theorem getElem?_states (subject : Subject α) (init : α) {steps : List (Step α)} {k : Nat}
    (h : k ≤ steps.length) :
    (subject.states init steps)[k]? = some (subject.final init (steps.take k)) := by
  induction steps generalizing init k with
  | nil =>
    obtain rfl : k = 0 := Nat.le_zero.mp h
    rfl
  | cons next rest ih =>
    cases k with
    | zero => rfl
    | succ k => exact ih (subject.step init next).state (Nat.le_of_succ_le_succ h)

/-- Each step leads from one boundary to the next. -/
theorem exists_boundaries (subject : Subject α) (init : α) {steps : List (Step α)} {k : Nat}
    {next : Step α} (h : steps[k]? = some next) :
    ∃ before, (subject.states init steps)[k]? = some before
      ∧ (subject.states init steps)[k + 1]? = some (subject.step before next).state := by
  obtain ⟨hk, -⟩ := List.getElem?_eq_some_iff.mp h
  refine ⟨_, subject.getElem?_states init (Nat.le_of_lt hk), ?_⟩
  rw [subject.getElem?_states init hk, List.take_add_one, h, final_append]
  rfl

/-! ## What one step does -/

variable (merge : α → α → α) (state : α)

theorem step_mergeAll (layers : List α) :
    ((ofMerge merge).step state (.mergeAll layers)).state = layers.foldl merge state := by
  rw [step, Merging.mergeAll_eq]
  rfl

theorem step_collapse_cons (base : α) (layers : List α) :
    ((ofMerge merge).step state (.collapse (base :: layers))).state = layers.foldl merge base := by
  rw [step, Merging.collapse_cons]
  rfl

/-- **What a step can do**: it merges its records into the state one after another, or the state
with itself, or the state over a base; or it puts its first record in place of the state and merges
the others into that. -/
theorem step_cases (next : Step α) :
    ((ofMerge merge).step state next).state = next.records.foldl merge state
      ∨ (next = .mergeSelf ∧ ((ofMerge merge).step state next).state = merge state state)
      ∨ (∃ base, next = .mergeUnder base
          ∧ ((ofMerge merge).step state next).state = merge base state)
      ∨ ∃ base layers, next.records = base :: layers
          ∧ (next = .set base ∨ next = .collapse (base :: layers))
          ∧ ((ofMerge merge).step state next).state = layers.foldl merge base := by
  cases next with
  | set value => exact Or.inr (Or.inr (Or.inr ⟨value, [], rfl, Or.inl rfl, rfl⟩))
  | merge override => exact Or.inl rfl
  | mergeInPlace override => exact Or.inl rfl
  | traitMerge override => exact Or.inl rfl
  | traitMergeInPlace override => exact Or.inl rfl
  | mergeSelf => exact Or.inr (Or.inl ⟨rfl, rfl⟩)
  | mergeUnder base => exact Or.inr (Or.inr (Or.inl ⟨base, rfl, rfl⟩))
  | mergeAll layers => exact Or.inl (step_mergeAll merge state layers)
  | collapse layers =>
    cases layers with
    | nil => exact Or.inl rfl
    | cons base rest =>
      exact Or.inr (Or.inr
        (Or.inr ⟨base, rest, rfl, Or.inr rfl, step_collapse_cons merge state base rest⟩))

variable {merge state}

/-- **What merging preserves, a step preserves**, if the records that it brings in have it too. -/
theorem step_invariant {P : α → Prop} (hMerge : ∀ x y, P x → P y → P (merge x y)) {next : Step α}
    (hState : P state) (hRecords : ∀ r ∈ next.records, P r) :
    P ((ofMerge merge).step state next).state := by
  have hFold (base : α) (layers : List α) (hBase : P base) (hLayers : ∀ r ∈ layers, P r) :
      P (layers.foldl merge base) :=
    List.foldlRecOn layers merge hBase fun x hx y hy => hMerge x y hx (hLayers y hy)
  rcases step_cases merge state next with
    h | ⟨-, h⟩ | ⟨base, rfl, h⟩ | ⟨base, layers, hAll, -, h⟩ <;> rw [h]
  · exact hFold state next.records hState hRecords
  · exact hMerge state state hState hState
  · exact hMerge base state (hRecords base List.mem_cons_self) hState
  · rw [hAll] at hRecords
    exact hFold base layers (hRecords base List.mem_cons_self)
      fun r hr => hRecords r (List.mem_cons_of_mem base hr)

/-- **What one part brings into a merge, a step does not lose**, unless it puts another value in
place of the state. -/
theorem step_absorbs {P : α → Prop} (hMerge : ∀ x y, P x ∨ P y → P (merge x y)) {next : Step α}
    (hState : P state) (hLost : ¬ P ((ofMerge merge).step state next).state) :
    (∃ value, next = .set value) ∨ ∃ base layers, next = .collapse (base :: layers) := by
  rcases step_cases merge state next with h | ⟨-, h⟩ | ⟨base, -, h⟩ | ⟨base, layers, -, hNext, -⟩
  · have hKept : P (next.records.foldl merge state) :=
      List.foldlRecOn next.records merge hState fun x hx y _ => hMerge x y (Or.inl hx)
    exact absurd (h ▸ hKept) hLost
  · exact absurd (h ▸ hMerge state state (Or.inl hState)) hLost
  · exact absurd (h ▸ hMerge base state (Or.inr hState)) hLost
  · rcases hNext with hSet | hCollapse
    · exact Or.inl ⟨base, hSet⟩
    · exact Or.inr ⟨base, layers, hCollapse⟩

/-- **What merging preserves is an invariant of sessions.** -/
theorem final_invariant {P : α → Prop} (hMerge : ∀ x y, P x → P y → P (merge x y)) {init : α}
    {steps : List (Step α)} (hInit : P init) (hRecords : ∀ next ∈ steps, ∀ r ∈ next.records, P r) :
    P ((ofMerge merge).final init steps) := by
  induction steps generalizing init with
  | nil => exact hInit
  | cons next rest ih =>
    have hNext := step_invariant hMerge hInit (hRecords next List.mem_cons_self)
    exact ih hNext fun later hLater => hRecords later (List.mem_cons_of_mem next hLater)

/-! ## Sessions seen through a function -/

variable {merge' : β → β → β} {g : α → β}

/-- A function that commutes with merging takes a step to a step. -/
theorem step_map (hMerge : ∀ x y, g (merge x y) = merge' (g x) (g y)) (next : Step α) :
    (ofMerge merge').step (g state) (next.map g) = ((ofMerge merge).step state next).map g := by
  have hOutcome (x y : α) : (⟨merge' (g x) (g y), [], none⟩ : Outcome β)
      = ⟨g (merge x y), [], none⟩ := by
    rw [hMerge]
  cases next with
  | set value => rfl
  | merge override => exact hOutcome state override
  | mergeInPlace override => exact hOutcome state override
  | traitMerge override => exact hOutcome state override
  | traitMergeInPlace override => exact hOutcome state override
  | mergeSelf => exact hOutcome state state
  | mergeUnder base => exact hOutcome base state
  | mergeAll layers =>
    have h := Merging.mergeAll_map (m := ⟨merge, merge⟩) (n := ⟨merge', merge'⟩) hMerge state layers
    rw [Step.map, step, step, ofMerge, h]
    rfl
  | collapse layers =>
    have h := Merging.collapse_map (m := ⟨merge, merge⟩) (n := ⟨merge', merge'⟩) hMerge layers
    rw [Step.map, step, step, ofMerge, h]
    -- there is a result on one side exactly if there is one on the other
    simp only [Outcome.map, Option.getD_map, Option.isSome_map, ofMerge]

/-- **A function that commutes with merging takes sessions to sessions**, with the same reports and
the same results found. -/
theorem run_map (hMerge : ∀ x y, g (merge x y) = merge' (g x) (g y)) (init : α)
    (steps : List (Step α)) :
    (ofMerge merge').run (g init) (steps.map (Step.map g))
      = ((ofMerge merge).run init steps).map (Outcome.map g) := by
  induction steps generalizing init with
  | nil => rfl
  | cons next rest ih =>
    have hRest := ih ((ofMerge merge).step init next).state
    simp only [List.map_cons, run, step_map hMerge]
    rw [← hRest]
    rfl

/-- The states of a session, seen through the function. -/
theorem states_map (hMerge : ∀ x y, g (merge x y) = merge' (g x) (g y)) (init : α)
    (steps : List (Step α)) :
    (ofMerge merge').states (g init) (steps.map (Step.map g))
      = ((ofMerge merge).states init steps).map g := by
  rw [states, run_map hMerge, List.map_map, states, List.map_cons, List.map_map]
  rfl

end Subject

end Overlay
