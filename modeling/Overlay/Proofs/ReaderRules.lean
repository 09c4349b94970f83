import Overlay.Reader.Basic

/-!
Rules about readers, in four judgements.

* `Reads before reader a after` is total: from every input in `before` the reader succeeds, gives
  `a`, and leaves an input in `after`.
* `Fails before reader fault` is its counterpart: from every input in `before` the reader reports
  `fault`.
* `GoesOn before reader after next` leaves the end open: from an input in `before` the reader does
  what `next` does from an input in `after`.  What is read well in front of a success or of a
  failure is followed once.
* `Gives reader P` is partial: whatever the reader gives, if it gives anything, satisfies `P`.

Each judgement passes through sequences, choices, brackets and repetitions of readers.  Nothing here
depends on what is read.
-/

namespace Overlay

namespace Reader

variable {α β : Type}

/-! ## What one step does -/

theorem bind_of_ok {reader : Reader α} {input middle : Input} {a : α}
    (h : reader input = .ok (a, middle)) (next : α → Reader β) :
    (reader >>= next) input = next a middle := by
  show (reader input >>= fun p => next p.1 p.2) = _
  rw [h]
  rfl

theorem bind_of_error {reader : Reader α} {input : Input} {fault : Fault}
    (h : reader input = .error fault) (next : α → Reader β) :
    (reader >>= next) input = .error fault := by
  show (reader input >>= fun p => next p.1 p.2) = _
  rw [h]
  rfl

theorem get_bind (next : Input → Reader β) (input : Input) :
    (get >>= next) input = next input input := rfl

theorem set_bind (middle : Input) (next : PUnit → Reader β) (input : Input) :
    (set middle >>= next) input = next ⟨⟩ middle := rfl

theorem ok_bind (a : α) (next : α → Except Fault β) : (Except.ok a >>= next) = next a := rfl

/-- A reader that succeeds has succeeded at each of its steps. -/
theorem bind_eq_ok {reader : Reader α} {next : α → Reader β} {input last : Input} {b : β}
    (h : (reader >>= next) input = .ok (b, last)) :
    ∃ a middle, reader input = .ok (a, middle) ∧ next a middle = .ok (b, last) := by
  cases hReader : reader input with
  | error fault =>
    rw [bind_of_error hReader] at h
    nomatch h
  | ok p =>
    rw [bind_of_ok hReader] at h
    exact ⟨p.1, p.2, rfl, h⟩

/-- A reader of the content of brackets, run on brackets that are there. -/
theorem within_of_group {delimiter : Delimiter} {content : Reader α} {input inner : Input} {a : α}
    {found : Cursor.Found (List Tree × Span)}
    (hGroup : Cursor.group? delimiter input.trees = some found)
    (hContent : content { input with trees := found.value.1, scope := found.value.2 }
      = .ok (a, inner)) :
    within delimiter content input =
      .ok (a, { input.behind found with
        stray := inner.stray.or (strayIn delimiter inner.trees) }) := by
  rw [within, withinThen, get_bind, hGroup]
  dsimp only
  rw [set_bind, bind_of_ok hContent]
  rfl

/-- A reader whose trees are recorded. -/
theorem recorded_eq {reader : Reader α} {input inner : Input} {a : α}
    (h : reader { input with taken := [] } = .ok (a, inner)) :
    recorded reader input =
      .ok ((a, inner.taken.reverse), { inner with taken := inner.taken ++ input.taken }) := by
  rw [recorded, get_bind, set_bind, bind_of_ok h]
  rfl

/-- A reading of everything that succeeds is a success of its reader. -/
theorem exists_of_complete {reader : Reader α} {trees : List Tree} {scope : Span} {a : α}
    (h : complete reader trees scope = .ok a) :
    ∃ last, reader ⟨trees, scope, none, []⟩ = .ok (a, last) := by
  rw [complete] at h
  cases hReader : reader ⟨trees, scope, none, []⟩ with
  | error fault =>
    rw [hReader] at h
    cases h
  | ok p =>
    rw [hReader, ok_bind] at h
    dsimp only at h
    cases hStray : p.2.stray.or (strayIn .invisible p.2.trees) with
    | some stray =>
      rw [hStray] at h
      cases h
    | none =>
      rw [hStray] at h
      cases h
      exact ⟨p.2, rfl⟩

/-! ## Readers that succeed -/

/-- From every input in `before` the reader gives `a` and leaves an input in `after`. -/
def Reads (before : Input → Prop) (reader : Reader α) (a : α) (after : Input → Prop) : Prop :=
  ∀ input, before input → ∃ next, reader input = .ok (a, next) ∧ after next

namespace Reads

variable {before middle after : Input → Prop} {a : α} {b : β}

theorem pure (a : α) : Reads before (Pure.pure a) a before :=
  fun input h => ⟨input, rfl, h⟩

theorem bind {reader : Reader α} {next : α → Reader β} (h : Reads before reader a middle)
    (hNext : Reads middle (next a) b after) : Reads before (reader >>= next) b after := by
  intro input hInput
  obtain ⟨inner, hInner, hMiddle⟩ := h input hInput
  obtain ⟨last, hLast, hAfter⟩ := hNext inner hMiddle
  refine ⟨last, ?_, hAfter⟩
  rw [bind_of_ok hInner]
  exact hLast

theorem peek {test : Cursor.Test} {answer : Bool}
    (h : ∀ input, before input → test input.trees = answer) :
    Reads before (peek test) answer before := by
  intro input hInput
  refine ⟨input, ?_, hInput⟩
  rw [← h input hInput]
  rfl

/-- Recording notes only what is taken, so it matters to nobody who does not look at that. -/
theorem bind_recorded {reader : Reader α} {next : α × List Tree → Reader β}
    (hBefore : ∀ input taken, before input → before { input with taken })
    (hMiddle : ∀ input taken, middle input → middle { input with taken })
    (h : Reads before reader a middle) (hNext : ∀ taken, Reads middle (next (a, taken)) b after) :
    Reads before (recorded reader >>= next) b after := by
  intro input hInput
  obtain ⟨inner, hInner, hAt⟩ := h _ (hBefore input [] hInput)
  obtain ⟨last, hLast, hAfter⟩ :=
    hNext inner.taken.reverse _ (hMiddle inner (inner.taken ++ input.taken) hAt)
  refine ⟨last, ?_, hAfter⟩
  rw [bind_of_ok (recorded_eq hInner)]
  exact hLast

theorem iterate_stop {step : β → Reader (β ⊕ α)} {state : β} (fuel : Nat)
    (h : Reads before (step state) (.inr a) after) :
    Reads before (iterate step (fuel + 1) state) a after :=
  bind h (pure a)

theorem iterate_again {step : β → Reader (β ⊕ α)} {state state' : β} {fuel : Nat}
    (h : Reads before (step state) (.inl state') middle)
    (hMore : Reads middle (iterate step fuel state') a after) :
    Reads before (iterate step (fuel + 1) state) a after :=
  bind h hMore

/-- A bound on the tokens that are left bounds the repetitions. -/
theorem repeatFrom {step : β → Reader (β ⊕ α)} {state : β} {n : Nat}
    (hBound : ∀ input, before input → n ≤ Tree.sizeOf input.trees)
    (h : ∀ fuel, n < fuel → Reads before (iterate step fuel state) a after) :
    Reads before (repeatFrom state step) a after := by
  intro input hInput
  exact h _ (Nat.lt_succ_of_le (hBound input hInput)) input hInput

/-- A reader that leaves nothing, stray or not, reads the whole of the trees. -/
theorem complete {reader : Reader α} {trees : List Tree} {scope : Span}
    (hBefore : before ⟨trees, scope, none, []⟩)
    (hAfter : ∀ input, after input → input.trees = [] ∧ input.stray = none)
    (h : Reads before reader a after) : complete reader trees scope = .ok a := by
  obtain ⟨last, hLast, hEnd⟩ := h _ hBefore
  obtain ⟨hTrees, hStray⟩ := hAfter last hEnd
  rw [Reader.complete, hLast, ok_bind]
  dsimp only
  rw [hStray, hTrees]
  rfl

end Reads

/-! ## Readers that fail -/

/-- From every input in `before` the reader reports `fault`. -/
def Fails (before : Input → Prop) (reader : Reader α) (fault : Fault) : Prop :=
  ∀ input, before input → reader input = .error fault

namespace Fails

variable {before : Input → Prop} {fault : Fault}

theorem bind {reader : Reader α} (h : Fails before reader fault) (next : α → Reader β) :
    Fails before (reader >>= next) fault :=
  fun input hInput => bind_of_error (h input hInput) next

theorem recorded {reader : Reader α}
    (hBefore : ∀ input taken, before input → before { input with taken })
    (h : Fails before reader fault) : Fails before (recorded reader) fault := by
  intro input hInput
  rw [Reader.recorded, get_bind, set_bind]
  exact bind_of_error (h _ (hBefore input [] hInput)) _

theorem complete {reader : Reader α} {trees : List Tree} {scope : Span}
    (hBefore : before ⟨trees, scope, none, []⟩) (h : Fails before reader fault) :
    complete reader trees scope = .error fault := by
  rw [Reader.complete, h _ hBefore]
  rfl

end Fails

/-! ## Readers that go on as others -/

/-- From every input in `before` the reader does what `next` does from an input in `after`. -/
def GoesOn (before : Input → Prop) (reader : Reader α) (after : Input → Prop)
    (next : Reader α) : Prop :=
  ∀ input, before input → ∃ middle, after middle ∧ reader input = next middle

section

variable {before middle after : Input → Prop} {a : α}

/-- Behind what has been read, a sequence of readers goes on as the next one. -/
theorem Reads.goesOn {reader : Reader α} (h : Reads before reader a after) (next : α → Reader β) :
    GoesOn before (reader >>= next) after (next a) := by
  intro input hInput
  obtain ⟨middle, hReader, hAfter⟩ := h input hInput
  exact ⟨middle, hAfter, bind_of_ok hReader next⟩

namespace GoesOn

variable {reader next last : Reader α}

theorem refl (before : Input → Prop) (reader : Reader α) : GoesOn before reader before reader :=
  fun input hInput => ⟨input, hInput, rfl⟩

theorem trans (h : GoesOn before reader middle next) (hNext : GoesOn middle next after last) :
    GoesOn before reader after last := by
  intro input hInput
  obtain ⟨inner, hInner, hReader⟩ := h input hInput
  obtain ⟨further, hFurther, hLast⟩ := hNext inner hInner
  exact ⟨further, hFurther, hReader.trans hLast⟩

theorem bind (h : GoesOn before reader after next) (last : α → Reader β) :
    GoesOn before (reader >>= last) after (next >>= last) := by
  intro input hInput
  obtain ⟨middle, hMiddle, hReader⟩ := h input hInput
  refine ⟨middle, hMiddle, ?_⟩
  show (reader input >>= fun p => last p.1 p.2) = (next middle >>= fun p => last p.1 p.2)
  rw [hReader]

theorem reads (h : GoesOn before reader middle next) (hNext : Reads middle next a after) :
    Reads before reader a after := by
  intro input hInput
  obtain ⟨inner, hInner, hReader⟩ := h input hInput
  rw [hReader]
  exact hNext inner hInner

theorem fails {fault : Fault} (h : GoesOn before reader middle next)
    (hNext : Fails middle next fault) :
    Fails before reader fault := by
  intro input hInput
  obtain ⟨inner, hInner, hReader⟩ := h input hInput
  rw [hReader]
  exact hNext inner hInner

end GoesOn

end

/-! ## What readers give -/

variable {P : α → Prop}

/-- What the reader gives, if it gives anything, satisfies `P`. -/
def Gives (reader : Reader α) (P : α → Prop) : Prop :=
  ∀ input a next, reader input = .ok (a, next) → P a

namespace Gives

theorem trivial (reader : Reader α) : Gives reader fun _ => True := fun _ _ _ _ => True.intro

theorem pure {a : α} (h : P a) : Gives (Pure.pure a : Reader α) P := by
  intro input b next hPure
  cases hPure
  exact h

theorem bind {Q : β → Prop} {reader : Reader α} {next : α → Reader β} (h : Gives reader P)
    (hNext : ∀ a, P a → Gives (next a) Q) : Gives (reader >>= next) Q := by
  intro input b last hBind
  obtain ⟨a, middle, hReader, hLast⟩ := bind_eq_ok hBind
  exact hNext a (h input a middle hReader) middle b last hLast

/-- Nothing is asked of what is read first. -/
theorem after {Q : β → Prop} {reader : Reader α} {next : α → Reader β} (h : ∀ a, Gives (next a) Q) :
    Gives (reader >>= next) Q :=
  bind (trivial reader) fun a _ => h a

theorem ite {c : Prop} [Decidable c] {first second : Reader α} (hFirst : Gives first P)
    (hSecond : Gives second P) : Gives (if c then first else second) P := by
  split
  · exact hFirst
  · exact hSecond

theorem fail (problem : Problem) : Gives (fail problem : Reader α) P := by
  intro input a next h
  obtain ⟨b, middle, hGet, hFail⟩ := bind_eq_ok h
  cases hTrees : b.trees with
  | nil =>
    simp only [hTrees] at hFail
    nomatch hFail
  | cons t ts =>
    simp only [hTrees] at hFail
    nomatch hFail

theorem missing (alternatives : List String) : Gives (missing alternatives : Reader α) P :=
  fail (.expected alternatives)

theorem within {delimiter : Delimiter} {content : Reader α} (h : Gives content P) :
    Gives (within delimiter content) P := by
  refine after fun outer => ?_
  cases Cursor.group? delimiter outer.trees with
  | none => exact missing _
  | some found =>
    exact after fun _ => bind h fun a ha => after fun _ => after fun _ => bind (pure ha) fun b hb =>
      after fun _ => pure hb

theorem iterate {step : β → Reader (β ⊕ α)} {I : β → Prop}
    (h : ∀ b, I b → Gives (step b) (Sum.elim I P)) (fuel : Nat) (b : β) (hb : I b) :
    Gives (iterate step fuel b) P := by
  induction fuel generalizing b with
  | zero => exact fail _
  | succ fuel ih =>
    refine bind (h b hb) fun outcome hOutcome => ?_
    cases outcome with
    | inl next => exact ih next hOutcome
    | inr a => exact pure hOutcome

/-- `I` is the invariant of a repetition, and `P` holds where it ends. -/
theorem repeatFrom {step : β → Reader (β ⊕ α)} {I : β → Prop} {b : β} (hb : I b)
    (h : ∀ b, I b → Gives (step b) (Sum.elim I P)) : Gives (repeatFrom b step) P :=
  after fun _ => iterate h _ b hb

/-- Every item satisfies what the reader of items gives. -/
theorem terminated {item : Reader α} (h : Gives item P) :
    Gives (terminated item) fun items => ∀ a ∈ items.1, P a := by
  refine repeatFrom (I := fun state => ∀ a ∈ state.1, P a) (fun a ha => nomatch ha) ?_
  rintro ⟨done, comma⟩ hDone
  have hReverse {items : List α} (hItems : ∀ a ∈ items, P a) : ∀ a ∈ items.reverse, P a :=
    fun a ha => hItems a (List.mem_reverse.1 ha)
  have hCons {next : α} (hNext : P next) : ∀ a ∈ next :: done, P a := by
    intro a ha
    rcases List.mem_cons.1 ha with rfl | ha
    · exact hNext
    · exact hDone a ha
  refine after fun empty => ite (pure (hReverse hDone))
    (bind h fun next hNext => after fun last => ?_)
  exact ite (pure (hReverse (hCons hNext))) (after fun _ => pure (hCons hNext))

theorem complete {reader : Reader α} (h : Gives reader P) {trees : List Tree} {scope : Span} {a : α}
    (hComplete : complete reader trees scope = .ok a) : P a := by
  obtain ⟨last, hReader⟩ := exists_of_complete hComplete
  exact h _ _ _ hReader

end Gives

/-! ## Names -/

theorem name_gives : Gives name fun name => Cursor.isName name = true := by
  refine Gives.after fun input => ?_
  cases Cursor.ident? input.trees with
  | none => exact .missing _
  | some found =>
    dsimp only
    split
    · next hName => exact .after fun _ => .pure hName
    · exact .fail _

end Reader

end Overlay
