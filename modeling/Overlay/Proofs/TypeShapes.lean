import Overlay.Derive.Shape

/-!
The shape of a field, told exactly from its type.

DATA           a type, in any number of parentheses and invisible groups, in any mixture
               (`Ty.Wraps`).  What is left when all of them are gone is its CORE (`Ty.IsCoreOf`);
               there is exactly one (`isCoreOf_iff`).
PROGRAM        `Ty.optionArgument?`, `Ty.isMarker` and `Shape.of`, which peel the type and then look
               at the last segment of a path.
SPECIFICATION  two forms of cores, written out as syntax: a path that ends in `Option<u>` with that
               one argument (`Ty.IsOptionOf`), and a path that ends in `PhantomData`
               (`Ty.IsPhantom`).

Whatever a type is, only its core counts, and of that only these two forms.  The crux is one lemma
on the last segment (`lastNamed?_eq_some_iff`): finding a segment there is the same as writing the
path as what stands in front of that segment, and the segment.
-/

namespace Overlay

namespace Ty

/-! ## Wrappers and cores -/

/-- `outer` is `inner` in any number of parentheses and invisible groups. -/
inductive Wraps (inner : Ty) : Ty → Prop
  | refl : Wraps inner inner
  | paren {outer : Ty} (h : Wraps inner outer) : Wraps inner (.paren outer)
  | group {outer : Ty} (h : Wraps inner outer) : Wraps inner (.group outer)

/-- Neither parentheses nor an invisible group are around the type. -/
def IsBare (t : Ty) : Prop := (∀ inner, t ≠ .paren inner) ∧ ∀ inner, t ≠ .group inner

/-- `core` is what is left of a type without all that is around it. -/
structure IsCoreOf (core t : Ty) : Prop where
  wraps : Wraps core t
  isBare : core.IsBare

theorem bare_of_isBare {t : Ty} (h : t.IsBare) : t.bare = t := by
  rw [bare]
  · exact fun inner hParen => h.1 inner hParen
  · exact fun inner hGroup => h.2 inner hGroup

/-- Peeling does not see how much there is to peel. -/
theorem Wraps.bare_eq {inner outer : Ty} (h : Wraps inner outer) : outer.bare = inner.bare := by
  induction h with
  | refl => rfl
  | paren _ ih => rw [bare, ih]
  | group _ ih => rw [bare, ih]

/-- Peeling takes off wrappers and nothing else, and leaves none. -/
theorem bare_isCoreOf (t : Ty) : t.bare.IsCoreOf t := by
  fun_induction bare t with
  | case1 inner ih => exact ⟨.paren ih.wraps, ih.isBare⟩
  | case2 inner ih => exact ⟨.group ih.wraps, ih.isBare⟩
  | case3 t hParen hGroup => exact ⟨.refl, hParen, hGroup⟩

/-- **A type has exactly one core**, and peeling finds it. -/
theorem isCoreOf_iff {core t : Ty} : core.IsCoreOf t ↔ core = t.bare := by
  constructor
  · intro h
    rw [h.wraps.bare_eq, bare_of_isBare h.isBare]
  · intro h
    rw [h]
    exact t.bare_isCoreOf

/-! ## The two forms of cores -/

/-- The path type `front::Option<argument>`. -/
def optionPath (leading : Bool) (front : List Segment) (turbofish trailing : Bool)
    (argument : Ty) : Ty :=
  .path (.mk leading
    (front ++ [.mk ⟨"Option", false⟩ (.angled turbofish [.type argument] trailing)]))

/-- The type is a path that ends in `Option`, with `argument` as its only argument. -/
def IsOptionOf (t argument : Ty) : Prop :=
  ∃ leading front turbofish trailing, t = optionPath leading front turbofish trailing argument

/-- The type is a path that ends in `PhantomData`, with any arguments or none. -/
def IsPhantom (t : Ty) : Prop :=
  ∃ leading front args, t = .path (.mk leading (front ++ [.mk ⟨"PhantomData", false⟩ args]))

/-- **The last segment is found where the path ends in it.** -/
theorem lastNamed?_eq_some_iff {t : Ty} {name : String} {segment : Segment} :
    t.lastNamed? name = some segment
      ↔ segment.name = ⟨name, false⟩
        ∧ ∃ leading front, t.bare = .path (.mk leading (front ++ [segment])) := by
  constructor
  · intro h
    unfold lastNamed? at h
    split at h
    · rename_i p hPath
      obtain ⟨leading, segments⟩ := p
      split at h
      · rename_i last hLast
        split at h
        · rename_i hName
          obtain rfl : last = segment := Option.some.inj h
          obtain ⟨front, hSegments⟩ := List.getLast?_eq_some_iff.mp hLast
          refine ⟨hName, leading, front, ?_⟩
          rw [hPath, ← hSegments]
          rfl
        · nomatch h
      · nomatch h
    · nomatch h
  · rintro ⟨hName, leading, front, hPath⟩
    have hLast : (Path.mk leading (front ++ [segment])).segments.getLast? = some segment :=
      List.getLast?_concat
    rw [lastNamed?, hPath]
    simp only [hLast, hName, if_true]

theorem soleArgument?_eq_some_iff {args : Args} {argument : Ty} :
    soleArgument? args = some argument
      ↔ ∃ turbofish trailing, args = .angled turbofish [.type argument] trailing := by
  constructor
  · intro h
    unfold soleArgument? at h
    split at h
    · rename_i turbofish inner trailing
      obtain rfl : inner = argument := Option.some.inj h
      exact ⟨turbofish, trailing, rfl⟩
    · nomatch h
  · rintro ⟨turbofish, trailing, rfl⟩
    rfl

/-- **A type is an option of `argument` where its core is written so.** -/
theorem optionArgument?_eq_some_iff {t argument : Ty} :
    t.optionArgument? = some argument ↔ t.bare.IsOptionOf argument := by
  constructor
  · intro h
    unfold optionArgument? at h
    split at h
    · rename_i segment hLast
      obtain ⟨name, args⟩ := segment
      obtain ⟨rfl, leading, front, hPath⟩ := lastNamed?_eq_some_iff.mp hLast
      obtain ⟨turbofish, trailing, rfl⟩ := soleArgument?_eq_some_iff.mp h
      exact ⟨leading, front, turbofish, trailing, hPath⟩
    · nomatch h
  · rintro ⟨leading, front, turbofish, trailing, hPath⟩
    have hLast := lastNamed?_eq_some_iff.mpr ⟨rfl, leading, front, hPath⟩
    rw [optionArgument?, hLast]
    exact soleArgument?_eq_some_iff.mpr ⟨turbofish, trailing, rfl⟩

/-- **A type is a marker where its core is written so.** -/
theorem isMarker_iff {t : Ty} : t.isMarker = true ↔ t.bare.IsPhantom := by
  rw [isMarker, Option.isSome_iff_exists]
  constructor
  · rintro ⟨⟨name, args⟩, hLast⟩
    obtain ⟨rfl, leading, front, hPath⟩ := lastNamed?_eq_some_iff.mp hLast
    exact ⟨leading, front, args, hPath⟩
  · rintro ⟨leading, front, args, hPath⟩
    exact ⟨_, lastNamed?_eq_some_iff.mpr ⟨rfl, leading, front, hPath⟩⟩

/-- No path ends in both names. -/
theorem IsOptionOf.not_isPhantom {t argument : Ty} (h : t.IsOptionOf argument) : ¬ t.IsPhantom := by
  rintro ⟨leading, front, args, hPhantom⟩
  obtain ⟨leading', front', turbofish, trailing, rfl⟩ := h
  have hSegments := (Path.mk.inj (Ty.path.inj hPhantom)).2
  have hLast := congrArg List.getLast? hSegments
  rw [List.getLast?_concat, List.getLast?_concat] at hLast
  have hName := (Segment.mk.inj (Option.some.inj hLast)).1
  exact absurd hName (by decide)

end Ty

/-! ## Shapes -/

namespace Shape

variable {t : Ty}

theorem of_eq_optional_iff : of t = .optional ↔ ∃ argument, t.bare.IsOptionOf argument := by
  have hSome : t.optionArgument?.isSome = true ↔ ∃ argument, t.bare.IsOptionOf argument := by
    rw [Option.isSome_iff_exists]
    exact exists_congr fun _ => Ty.optionArgument?_eq_some_iff
  rw [← hSome, of]
  cases t.optionArgument?.isSome <;> cases t.isMarker <;> decide

theorem of_eq_marker_iff : of t = .marker ↔ t.bare.IsPhantom := by
  rw [← Ty.isMarker_iff]
  cases hOption : t.optionArgument? with
  | none =>
    rw [of, hOption]
    cases t.isMarker <;> decide
  | some argument =>
    -- an option is asked for first, but what is an option is no marker
    have hNo : t.isMarker ≠ true := fun hMarker =>
      (Ty.optionArgument?_eq_some_iff.mp hOption).not_isPhantom (Ty.isMarker_iff.mp hMarker)
    rw [of, hOption]
    exact ⟨fun h => (nomatch h), fun h => absurd h hNo⟩

theorem of_eq_required_iff :
    of t = .required ↔ (¬ ∃ argument, t.bare.IsOptionOf argument) ∧ ¬ t.bare.IsPhantom := by
  rw [← of_eq_optional_iff, ← of_eq_marker_iff]
  cases of t <;> decide

end Shape

/-- **The shape of a type is told from its core**, of which every type has exactly one:
    (1) it is an option of `u` if and only if its core is a path that ends in `Option<u>`, with `u`
        as its only argument, whatever stands in front; it is a marker if and only if its core is a
        path that ends in `PhantomData`; and not both;
    (2) these two conditions decide its shape;
    (3) nothing of this changes with further parentheses or invisible groups around the type;
    (4) nor does the shape change with another `u` in the place of the argument. -/
theorem shape_told_from_core (t : Ty) :
    ∃ core, (∀ c : Ty, c.IsCoreOf t ↔ c = core)
      ∧ (∀ u, t.optionArgument? = some u ↔ core.IsOptionOf u)
      ∧ (t.isMarker = true ↔ core.IsPhantom)
      ∧ ¬ ((∃ u, core.IsOptionOf u) ∧ core.IsPhantom)
      ∧ (Shape.of t = .optional ↔ ∃ u, core.IsOptionOf u)
      ∧ (Shape.of t = .marker ↔ core.IsPhantom)
      ∧ (Shape.of t = .required ↔ (¬ ∃ u, core.IsOptionOf u) ∧ ¬ core.IsPhantom)
      ∧ (∀ outer, Ty.Wraps t outer → outer.optionArgument? = t.optionArgument?
          ∧ outer.isMarker = t.isMarker ∧ Shape.of outer = Shape.of t)
      ∧ (∀ leading front turbofish trailing u v,
        core = .optionPath leading front turbofish trailing u →
          ∀ outer, Ty.Wraps (.optionPath leading front turbofish trailing v) outer →
            Shape.of outer = Shape.of t) := by
  refine ⟨t.bare, fun c => Ty.isCoreOf_iff, fun u => Ty.optionArgument?_eq_some_iff,
    Ty.isMarker_iff, fun ⟨⟨u, hOption⟩, hPhantom⟩ => hOption.not_isPhantom hPhantom,
    Shape.of_eq_optional_iff, Shape.of_eq_marker_iff, Shape.of_eq_required_iff, ?_, ?_⟩
  · intro outer hOuter
    have hLast (name : String) : outer.lastNamed? name = t.lastNamed? name := by
      rw [Ty.lastNamed?, hOuter.bare_eq, Ty.lastNamed?]
    have hOption : outer.optionArgument? = t.optionArgument? := by
      rw [Ty.optionArgument?, hLast, Ty.optionArgument?]
    have hMarker : outer.isMarker = t.isMarker := by
      rw [Ty.isMarker, hLast, Ty.isMarker]
    refine ⟨hOption, hMarker, ?_⟩
    rw [Shape.of, hOption, hMarker, Shape.of]
  · intro leading front turbofish trailing u v hCore outer hOuter
    have hBare : outer.bare = .optionPath leading front turbofish trailing v := by
      rw [hOuter.bare_eq]
      rfl
    have hOuterShape : Shape.of outer = .optional :=
      Shape.of_eq_optional_iff.mpr ⟨v, leading, front, turbofish, trailing, hBare⟩
    have hShape : Shape.of t = .optional :=
      Shape.of_eq_optional_iff.mpr ⟨u, leading, front, turbofish, trailing, hCore⟩
    rw [hOuterShape, hShape]

/-- `(::core::Option::<Option<_>>)` in an invisible group is an option of `Option<_>`, also with one
more pair of parentheses around it; `Option<_, _>` and `r#Option<_>` are required, and
`a<!>::PhantomData` is a marker. -/
theorem shape_told_from_core_of_wrapped :
    let option := fun raw args => (.mk ⟨"Option", raw⟩ (.angled true args false) : Segment)
    let inner : Ty := .path (.mk false [option false [.type .infer]])
    let wrapped : Ty :=
      .group (.paren (.path (.mk true [.plain ⟨"core", false⟩, option false [.type inner]])))
    let pair : Ty := .path (.mk false [option false [.type .infer, .type .infer]])
    let raw : Ty := .path (.mk false [option true [.type .infer]])
    let marker : Ty := .path (.mk false [.mk ⟨"a", false⟩ (.angled false [.type .never] false),
      .plain ⟨"PhantomData", false⟩])
    wrapped.optionArgument? = some inner ∧ Shape.of (.paren wrapped) = .optional
      ∧ Shape.of pair = .required ∧ Shape.of raw = .required ∧ Shape.of marker = .marker := by
  intro option inner wrapped pair raw marker
  obtain ⟨core, hCore, hOption, -, -, hShape, -, -, hWraps, -⟩ := shape_told_from_core wrapped
  have hIs : core.IsOptionOf inner := by
    rw [← (hCore _).mp (Ty.bare_isCoreOf wrapped)]
    exact ⟨true, [.plain ⟨"core", false⟩], true, false, rfl⟩
  have hOuter := (hWraps (.paren wrapped) (.paren .refl)).2.2
  refine ⟨(hOption inner).mpr hIs, hOuter.trans (hShape.mpr ⟨inner, hIs⟩), rfl, rfl, rfl⟩

end Overlay
