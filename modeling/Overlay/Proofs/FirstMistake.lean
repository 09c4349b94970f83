import Overlay.Proofs.AttributeItems

/-!
Which attributes can be read, what they say, and what is wrong with the first one that cannot.

1. **Mistakes**: `Mistake closing trees fault` says which complaint the first malformed place
   deserves: an item without a path, a `crate` without a string that holds a path, a missing comma.
   All in front of it is well formed, in the sense of `Item.Heads`.
2. **Reading agrees**: what has a mistake is refused with its complaint, and what has none is well
   formed up to its cut (`upToCut_or_mistake`, by induction on the number of visible tokens), hence
   read.  So both outcomes are characterised exactly.
3. **Lists of attributes** are read in order, up to the first mistake; of several paths the last one
   counts (`first_mistake_decides`).
-/

namespace Overlay

open Reader Cursor Overlay.Tree

namespace Settings

variable {closing : Span} {trees rest : List Tree} {fault : Fault}

/-! ## Mistakes -/

/-- Where the names of a path begin: behind the `::` that leads it, if there is one. -/
inductive NamesFrom : List Tree → List Tree → Prop
  | plain {trees : List Tree} (h : NoSign "::" trees) : NamesFrom trees trees
  | leading {trees start : List Tree} (spacing : Spacing) (s₁ s₂ : Span)
      (h : Passes trees [.leaf (.punct ':' .joint) s₁, .leaf (.punct ':' spacing) s₂] start) :
      NamesFrom trees start

/-- What is wrong where an item should begin with a path. -/
inductive PathMistake (closing : Span) : List Tree → Fault → Prop
  | nothing {trees : List Tree} (h : NamesFrom trees []) :
      PathMistake closing trees (missingIn closing "nested attribute" [])
  | literal {trees start : List Tree} (h : NamesFrom trees start) (hIdent : NoIdent start)
      (hLiteral : hasLiteral start = true) :
      PathMistake closing trees
        ⟨.refused "unexpected literal in nested attribute, expected ident", placeIn closing start⟩
  | token {trees start : List Tree} (h : NamesFrom trees start) (hIdent : NoIdent start)
      (hSome : start ≠ []) (hLiteral : hasLiteral start = false) :
      PathMistake closing trees
        ⟨.refused "unexpected token in nested attribute, expected ident", placeIn closing start⟩
  | name {key : Bool × List Ident} {ts trees rest : List Tree} (spacing : Spacing) (s₁ s₂ : Span)
      (h : PathSpelled key ts)
      (hPasses : Passes trees
        (ts ++ [.leaf (.punct ':' .joint) s₁, .leaf (.punct ':' spacing) s₂]) rest)
      (hIdent : NoIdent rest) : PathMistake closing trees (missingIn closing "ident" rest)

/-- What is wrong with the value of `crate`. -/
inductive RuntimeMistake (closing : Span) : List Tree → Fault → Prop
  | equals {trees rest : List Tree} (s : Span)
      (h : Passes trees [.leaf (.ident ⟨"crate", false⟩) s] rest)
      (hColons : NoSign "::" rest) (hEquals : NoSign "=" rest) :
      RuntimeMistake closing trees ⟨.expected ["`=`"], placeIn closing rest⟩
  | literal {trees rest : List Tree} (spacing : Spacing) (s₁ s₂ : Span)
      (h : Passes trees [.leaf (.ident ⟨"crate", false⟩) s₁, .leaf (.punct '=' spacing) s₂] rest)
      (hLiteral : signedLiteral? rest = none) :
      RuntimeMistake closing trees (missingIn closing "literal" rest)
  | string {trees rest : List Tree} {found : Found String} (spacing : Spacing) (s₁ s₂ : Span)
      (h : Passes trees [.leaf (.ident ⟨"crate", false⟩) s₁, .leaf (.punct '=' spacing) s₂] rest)
      (hLiteral : signedLiteral? rest = some found)
      (hText : Text.stringValue? found.value.toList = none) :
      RuntimeMistake closing trees ⟨.refused "crate must be a string", coverOf found.taken⟩
  | path {trees rest : List Tree} {found : Found String} {value : List Char} {problem : Problem}
      (spacing : Spacing) (s₁ s₂ : Span)
      (h : Passes trees [.leaf (.ident ⟨"crate", false⟩) s₁, .leaf (.punct '=' spacing) s₂] rest)
      (hLiteral : signedLiteral? rest = some found)
      (hText : Text.stringValue? found.value.toList = some value)
      (hPath : Path.ofText (String.ofList value) = .error problem) :
      RuntimeMistake closing trees ⟨problem, coverOf found.taken⟩

/-- The first mistake in the content of an attribute, with the complaint that it deserves. -/
inductive Mistake (closing : Span) : List Tree → Fault → Prop
  | path {trees : List Tree} {fault : Fault} (hSome : trees ≠ [])
      (h : PathMistake closing trees fault) :
      Mistake closing trees fault
  | runtime {trees : List Tree} {fault : Fault} (h : RuntimeMistake closing trees fault) :
      Mistake closing trees fault
  | separator {item : Item} {trees rest : List Tree} (h : item.Heads trees rest) (hSome : rest ≠ [])
      (hComma : NoSign "," rest) : Mistake closing trees ⟨.expected ["`,`"], placeIn closing rest⟩
  | later {item : Item} {trees rest next : List Tree} {fault : Fault} (spacing : Spacing) (s : Span)
      (h : item.Heads trees rest) (hComma : Passes rest [.leaf (.punct ',' spacing) s] next)
      (hNext : Mistake closing next fault) : Mistake closing trees fault

/-! ## Reading paths -/

/-- Behind the `::` that leads a path, if there is one, its names are read. -/
theorem itemPath_of_namesFrom {start : List Tree} (h : NamesFrom trees start)
    (hNames : Stops closing itemNames start fault) : Stops closing itemPath trees fault := by
  cases h with
  | plain h => exact ((Moves.optSign_none h).goesOn _).fails (hNames.bind _)
  | leading spacing s₁ s₂ h => exact ((Moves.optSign_some h rfl).goesOn _).fails (hNames.bind _)

theorem itemNames_nothing : Stops closing itemNames []
    (missingIn closing "nested attribute" []) := by
  have hPeek : Moves closing (peek hasAnyIdent) [] false [] := Moves.peek rfl
  exact (hPeek.goesOn _).fails (((Moves.isEmpty []).goesOn _).fails ((Stops.missing _ _).bind _))

theorem itemNames_refused {start : List Tree} (hIdent : NoIdent start) (hSome : start ≠ [])
    {isLiteral : Bool} (hLiteral : hasLiteral start = isLiteral) :
    Stops closing itemNames start
      ⟨.refused (if isLiteral then "unexpected literal in nested attribute, expected ident"
        else "unexpected token in nested attribute, expected ident"), placeIn closing start⟩ := by
  have hPeek : Moves closing (peek hasAnyIdent) start false start := by
    refine Moves.peek ?_
    rw [hasAnyIdent, ident?_eq, first?_eq_none hIdent]
    rfl
  refine (hPeek.goesOn _).fails (((Moves.isEmpty_false hSome).goesOn _).fails
    (((Moves.peek hLiteral).goesOn _).fails ?_))
  cases isLiteral with
  | true => exact (Stops.refuse _ start).bind _
  | false => exact (Stops.refuse _ start).bind _

theorem ne_nil_of_hasLiteral {start : List Tree} (h : hasLiteral start = true) : start ≠ [] := by
  rintro rfl
  cases h

theorem itemPath_stops (h : PathMistake closing trees fault) :
    Stops closing itemPath trees fault := by
  cases h with
  | nothing h => exact itemPath_of_namesFrom h itemNames_nothing
  | literal h hIdent hLiteral =>
    exact itemPath_of_namesFrom h
      (itemNames_refused hIdent (ne_nil_of_hasLiteral hLiteral) hLiteral)
  | token h hIdent hSome hLiteral =>
    exact itemPath_of_namesFrom h (itemNames_refused hIdent hSome hLiteral)
  | @name key ts _ rest spacing s₁ s₂ h hPasses hIdent =>
    obtain ⟨middle, hNames, hColons⟩ := (passes_append ts _).mp hPasses
    obtain ⟨left, hLeft, hGoesOn⟩ := itemPath_goesOn closing h hNames
    obtain ⟨left, rfl⟩ := Nat.exists_eq_succ_of_ne_zero (Nat.ne_zero_of_lt hLeft)
    have hStep : Stops closing (moreNames key.2) middle (missingIn closing "ident" rest) :=
      ((Moves.optSign_some hColons rfl).goesOn _).fails ((Stops.anyIdent hIdent).bind _)
    exact hGoesOn.fails ((hStep.bind _).bind _)

/-! ## Reading items -/

theorem item_stops_of_runtimePath (settings : Settings) {s : Span}
    (h : Passes trees [.leaf (.ident ⟨"crate", false⟩) s] rest) (hColons : NoSign "::" rest)
    (hStops : Stops closing runtimePath rest fault) : Stops closing (item settings) trees fault :=
  (item_goesOn_runtime closing settings h hColons).fails (hStops.bind _)

theorem item_stops_runtime (settings : Settings) (h : RuntimeMistake closing trees fault) :
    Stops closing (item settings) trees fault := by
  cases h with
  | equals s h hColons hEquals =>
    exact item_stops_of_runtimePath settings h hColons ((Stops.sign hEquals).bind _)
  | literal spacing s₁ s₂ h hLiteral =>
    obtain ⟨valued, hCrate, hEquals⟩ := (passes_append [_] [_]).mp h
    refine item_stops_of_runtimePath settings hCrate (noColons_of_equals hEquals) ?_
    exact ((Moves.sign hEquals rfl).goesOn _).fails ((Stops.literal hLiteral).bind _)
  | string spacing s₁ s₂ h hLiteral hText =>
    obtain ⟨valued, hCrate, hEquals⟩ := (passes_append [_] [_]).mp h
    refine item_stops_of_runtimePath settings hCrate (noColons_of_equals hEquals) ?_
    refine ((Moves.sign hEquals rfl).goesOn _).fails (((Moves.literal hLiteral).goesOn _).fails ?_)
    simp only [hText]
    exact Stops.failAt _ _ _
  | path spacing s₁ s₂ h hLiteral hText hPath =>
    obtain ⟨valued, hCrate, hEquals⟩ := (passes_append [_] [_]).mp h
    refine item_stops_of_runtimePath settings hCrate (noColons_of_equals hEquals) ?_
    refine ((Moves.sign hEquals rfl).goesOn _).fails (((Moves.literal hLiteral).goesOn _).fails ?_)
    simp only [hText, hPath]
    exact Stops.failAt _ _ _

/-! ## Reading the content of an attribute -/

theorem RuntimeMistake.ne_nil (h : RuntimeMistake closing trees fault) : trees ≠ [] := by
  cases h with
  | equals s h hColons hEquals => exact h.ne_nil
  | literal spacing s₁ s₂ h hLiteral => exact h.ne_nil
  | string spacing s₁ s₂ h hLiteral hText => exact h.ne_nil
  | path spacing s₁ s₂ h hLiteral hText hPath => exact h.ne_nil

theorem iterate_moreItems_stops (h : Mistake closing trees fault) (settings : Settings) (fuel : Nat)
    (hFuel : (visibleAll trees).length < fuel) :
    Stops closing (iterate moreItems fuel settings) trees fault := by
  induction h generalizing settings fuel with
  | path hSome h =>
    obtain ⟨fuel, rfl⟩ := Nat.exists_eq_succ_of_ne_zero (Nat.ne_zero_of_lt hFuel)
    exact (((Moves.isEmpty_false hSome).goesOn _).fails (((itemPath_stops h).bind _).bind _)).bind _
  | @runtime trees fault h =>
    obtain ⟨fuel, rfl⟩ := Nat.exists_eq_succ_of_ne_zero (Nat.ne_zero_of_lt hFuel)
    exact (((Moves.isEmpty_false h.ne_nil).goesOn _).fails
      ((item_stops_runtime settings h).bind _)).bind _
  | separator h hSome hComma =>
    obtain ⟨fuel, rfl⟩ := Nat.exists_eq_succ_of_ne_zero (Nat.ne_zero_of_lt hFuel)
    refine Fails.bind ((moreItems_goesOn closing settings h).fails ?_) _
    exact ((Moves.isEmpty_false hSome).goesOn _).fails ((Stops.sign hComma).bind _)
  | @later item trees rest next fault spacing s h hComma hNext ih =>
    obtain ⟨fuel, rfl⟩ := Nat.exists_eq_succ_of_ne_zero (Nat.ne_zero_of_lt hFuel)
    have hItem := h.length_lt
    have hShorter := hComma.length_lt (List.cons_ne_nil _ _)
    have hStep : Moves closing (moreItems settings) trees (.inl (settings.withItem item)) next :=
      moreItems_moves_comma settings h hComma
    exact (hStep.goesOn _).fails (ih (settings.withItem item) fuel (by omega))

theorem items_stops (settings : Settings) (h : Mistake closing trees fault) :
    Stops closing (Settings.items settings) trees fault := by
  obtain ⟨fuel, hFuel, hGoesOn⟩ := repeatFrom_goesOn closing trees moreItems settings
  exact hGoesOn.fails (iterate_moreItems_stops h settings fuel hFuel)

/-! ## There is no third possibility -/

/-- Names go on until no `::` follows, or until one is followed by no name. -/
theorem names_or_mistake (trees : List Tree) :
    ∃ names ts rest, NamesSpelled names ts ∧ Passes trees ts rest ∧
      (NoSign "::" rest ∨ ∃ spacing s₁ s₂ last,
        Passes rest [.leaf (.punct ':' .joint) s₁, .leaf (.punct ':' spacing) s₂] last
          ∧ NoIdent last) := by
  induction hLength : (visibleAll trees).length using Nat.strongRecOn generalizing trees with
  | _ n ih =>
    rcases noColons_or_passes trees with hColons | ⟨spacing, s₁, s₂, behind, hColons⟩
    · exact ⟨[], [], trees, .nil, .nil trees, .inl hColons⟩
    · rcases noIdent_or_passes behind with hIdent | ⟨name, s₃, middle, hName⟩
      · exact ⟨[], [], trees, .nil, .nil trees, .inr ⟨spacing, s₁, s₂, behind, hColons, hIdent⟩⟩
      · -- a `::` and a name are behind us, so fewer tokens are left
        have hBehind := hColons.length_lt (List.cons_ne_nil _ _)
        have hMiddle := hName.length_lt (List.cons_ne_nil _ _)
        obtain ⟨names, ts, rest, h, hPasses, hEnd⟩ := ih _ (by omega) middle rfl
        refine ⟨name :: names, _, rest, .cons name spacing s₁ s₂ s₃ h, ?_, hEnd⟩
        exact (passes_append [_, _] _).mpr
          ⟨behind, hColons, (passes_append [_] ts).mpr ⟨middle, hName, hPasses⟩⟩

theorem exists_namesFrom (trees : List Tree) : ∃ start, NamesFrom trees start := by
  rcases noColons_or_passes trees with hColons | ⟨spacing, s₁, s₂, start, hColons⟩
  · exact ⟨trees, .plain hColons⟩
  · exact ⟨start, .leading spacing s₁ s₂ hColons⟩

/-- A name behind the beginning of a path, and further ones, make a path. -/
theorem NamesFrom.exists_pathSpelled {start middle : List Tree} (hFrom : NamesFrom trees start)
    {name : Ident} {s : Span} (hName : Passes start [.leaf (.ident name) s] middle)
    {names : List Ident} {ts : List Tree} (h : NamesSpelled names ts)
    (hPasses : Passes middle ts rest) :
    ∃ key us, PathSpelled key us ∧ Passes trees us rest := by
  have hNames := (passes_append [_] ts).mpr ⟨middle, hName, hPasses⟩
  cases hFrom with
  | plain hColons => exact ⟨_, _, .plain name s h, hNames⟩
  | leading spacing s₁ s₂ hColons =>
    exact ⟨_, _, .leading (.cons name spacing s₁ s₂ s h),
      (passes_append [_, _] _).mpr ⟨start, hColons, hNames⟩⟩

theorem path_or_mistake (closing : Span) (trees : List Tree) :
    (∃ key ts rest, PathSpelled key ts ∧ Passes trees ts rest ∧ NoSign "::" rest) ∨
      ∃ fault, PathMistake closing trees fault := by
  obtain ⟨start, hFrom⟩ := exists_namesFrom trees
  rcases noIdent_or_passes start with hIdent | ⟨name, s, middle, hName⟩
  · cases hLiteral : hasLiteral start with
    | true => exact .inr ⟨_, .literal hFrom hIdent hLiteral⟩
    | false =>
      by_cases hSome : start = []
      · subst hSome
        exact .inr ⟨_, .nothing hFrom⟩
      · exact .inr ⟨_, .token hFrom hIdent hSome hLiteral⟩
  · obtain ⟨names, ts, rest, h, hPasses, hEnd⟩ := names_or_mistake middle
    obtain ⟨key, us, hPath, hPassed⟩ := hFrom.exists_pathSpelled hName h hPasses
    rcases hEnd with hColons | ⟨spacing, s₁, s₂, last, hColons, hIdent⟩
    · exact .inl ⟨key, us, rest, hPath, hPassed, hColons⟩
    · exact .inr ⟨_, .name spacing s₁ s₂ hPath
        ((passes_append us _).mpr ⟨rest, hPassed, hColons⟩) hIdent⟩

theorem runtime_or_mistake (closing : Span) {s : Span}
    (h : Passes trees [.leaf (.ident ⟨"crate", false⟩) s] rest) (hColons : NoSign "::" rest) :
    (∃ item last, Item.Heads item trees last) ∨ ∃ fault, RuntimeMistake closing trees fault := by
  rcases noSign_or_passes "=" (c := '=') rfl rest with hEquals | ⟨spacing, s₂, middle, hEquals⟩
  · exact .inr ⟨_, .equals s h hColons hEquals⟩
  · have hBoth := (passes_append [_] [_]).mpr ⟨rest, h, hEquals⟩
    cases hLiteral : signedLiteral? middle with
    | none => exact .inr ⟨_, .literal spacing s s₂ hBoth hLiteral⟩
    | some found =>
      cases hText : Text.stringValue? found.value.toList with
      | none => exact .inr ⟨_, .string spacing s s₂ hBoth hLiteral hText⟩
      | some value =>
        cases hPath : Path.ofText (String.ofList value) with
        | error problem => exact .inr ⟨_, .path spacing s s₂ hBoth hLiteral hText hPath⟩
        | ok path =>
          -- `true` and signed numbers count as literals too, but a string is a token of its own
          obtain ⟨text, taken, last⟩ := found
          obtain ⟨s₃, hString⟩ := passes_of_signedLiteral? hLiteral hText
          refine .inl ⟨.runtime path, last, .runtime (.runtime spacing s s₂ s₃ hText hPath) ?_⟩
          exact (passes_append [_, _] [_]).mpr ⟨middle, hBoth, hString⟩

theorem unknown_heads {key : Bool × List Ident} {ts : List Tree} (h : PathSpelled key ts)
    (hKey : key ≠ runtimeKey) (hPasses : Passes trees ts rest) (hColons : NoSign "::" rest) :
    ∃ item last, Item.Heads item trees last := by
  rcases noSign_or_passes "=" (c := '=') rfl rest with hEquals | ⟨spacing, s, value, hEquals⟩
  · rcases noGroup_or_passes .parenthesis rest with hGroup | ⟨content, s₁, s₂, last, hGroup⟩
    · exact ⟨.bare, rest, .bare h hKey hPasses hColons hEquals hGroup⟩
    · exact ⟨.listed, last, .listed (.listed s₁ s₂ h hKey)
        ((passes_append ts _).mpr ⟨rest, hPasses, hGroup⟩)⟩
  · exact ⟨.valued, [], .valued spacing s h hKey
      ((passes_append ts _).mpr ⟨rest, hPasses, hEquals⟩)⟩

theorem eq_of_pathSpelled_runtimeKey {ts : List Tree} (h : PathSpelled runtimeKey ts) :
    ∃ s, ts = [.leaf (.ident ⟨"crate", false⟩) s] := by
  cases h with
  | plain name s h =>
    cases h
    exact ⟨s, rfl⟩

/-- An item stands at the front, or there is a mistake. -/
theorem heads_or_mistake (closing : Span) (hSome : trees ≠ []) :
    (∃ item last, Item.Heads item trees last) ∨ ∃ fault, Mistake closing trees fault := by
  rcases path_or_mistake closing trees with ⟨key, ts, rest, h, hPasses, hColons⟩ | ⟨fault, hMistake⟩
  · by_cases hKey : key = runtimeKey
    · subst hKey
      obtain ⟨s, rfl⟩ := eq_of_pathSpelled_runtimeKey h
      rcases runtime_or_mistake closing hPasses hColons with hHeads | ⟨fault, hMistake⟩
      · exact .inl hHeads
      · exact .inr ⟨fault, .runtime hMistake⟩
    · exact .inl (unknown_heads h hKey hPasses hColons)
  · exact .inr ⟨fault, .path hSome hMistake⟩

/-- The content of an attribute is well formed up to its cut, or there is a first mistake in it.
The induction is on the number of visible tokens. -/
theorem upToCut_or_mistake (closing : Span) (trees : List Tree) :
    (∃ items, UpToCut items trees) ∨ ∃ fault, Mistake closing trees fault := by
  induction hLength : (visibleAll trees).length using Nat.strongRecOn generalizing trees with
  | _ n ih =>
    by_cases hSome : trees = []
    · subst hSome
      exact .inl ⟨[], .nil⟩
    rcases heads_or_mistake closing hSome with ⟨item, rest, hItem⟩ | hMistake
    · by_cases hRest : rest = []
      · subst hRest
        exact .inl ⟨[item], .last hItem⟩
      rcases noSign_or_passes "," (c := ',') rfl rest with hComma | ⟨spacing, s, next, hComma⟩
      · exact .inr ⟨_, .separator hItem hRest hComma⟩
      · have hShorter := hItem.length_lt
        have hNext := hComma.length_lt (List.cons_ne_nil _ _)
        rcases ih _ (by omega) next rfl with ⟨items, hItems⟩ | ⟨fault, hMistake⟩
        · exact .inl ⟨item :: items, .cons spacing s hItem hComma hItems⟩
        · exact .inr ⟨fault, .later spacing s hItem hComma hMistake⟩
    · exact .inr hMistake

/-! ## Attributes -/

/-- The attribute carries settings: its path is the one name that such attributes have. -/
def Carries (attr : Attribute) : Prop := attr.path = .ofNames false [⟨attributeName, false⟩]

theorem isNamed_iff_carries (attr : Attribute) :
    attr.isNamed attributeName = true ↔ Carries attr := by
  constructor
  · intro h
    unfold Attribute.isNamed at h
    split at h
    · next ident hPath =>
      rw [Carries, hPath, of_decide_eq_true h]
      rfl
    · cases h
  · intro h
    rw [Attribute.isNamed, h]
    rfl

instance (attr : Attribute) : Decidable (Carries attr) :=
  decidable_of_iff _ (isNamed_iff_carries attr)

/-- The first mistake in an attribute. -/
inductive AttributeMistake (attr : Attribute) : Fault → Prop
  | bare (h : attr.args = .bare) :
      AttributeMistake attr
        ⟨.refused "expected attribute arguments in parentheses: #[spreadable(...)]", attr.span⟩
  | value {equals : Span} {code : Code} (h : attr.args = .value equals code) :
      AttributeMistake attr ⟨.refused "expected parentheses: #[spreadable(...)]", equals⟩
  | content {delimiter : Delimiter} {content : List Tree} {closing : Span} {fault : Fault}
      (h : attr.args = .list delimiter content closing) (hMistake : Mistake closing content fault) :
      AttributeMistake attr fault

theorem readAttribute_of_mistake {attr : Attribute} (h : AttributeMistake attr fault)
    (settings : Settings) :
    readAttribute settings attr = .error fault := by
  cases h with
  | bare h =>
    rw [readAttribute, h]
    rfl
  | value h =>
    rw [readAttribute, h]
    rfl
  | content h hMistake =>
    rw [readAttribute, h]
    exact Fails.complete ⟨rfl, rfl, rfl⟩ (items_stops settings hMistake)

theorem readsAs_or_mistake (attr : Attribute) :
    (∃ items, ReadsAs attr items) ∨ ∃ fault, AttributeMistake attr fault := by
  cases hArgs : attr.args with
  | bare => exact .inr ⟨_, .bare hArgs⟩
  | value equals code => exact .inr ⟨_, .value hArgs⟩
  | list delimiter content closing =>
    rcases upToCut_or_mistake closing content with ⟨items, hItems⟩ | ⟨fault, hMistake⟩
    · exact .inl ⟨items, delimiter, content, closing, hArgs, hItems⟩
    · exact .inr ⟨fault, .content hArgs hMistake⟩

/-! ## Lists of attributes -/

/-- The attributes in front of the first mistake, which is `fault`, are well formed. -/
def FirstMistake (attrs : List Attribute) (fault : Fault) : Prop :=
  ∃ before attr after views, attrs = before ++ attr :: after ∧ List.Forall₂ ReadsAs before views ∧
    AttributeMistake attr fault

theorem foldlM_of_firstMistake {attrs : List Attribute} (h : FirstMistake attrs fault)
    (settings : Settings) :
    attrs.foldlM readAttribute settings = .error fault := by
  obtain ⟨before, attr, after, views, rfl, hBefore, hMistake⟩ := h
  rw [List.foldlM_append, foldlM_of_readsAs hBefore, ok_bind, List.foldlM_cons,
    readAttribute_of_mistake hMistake]
  rfl

theorem readsAs_or_firstMistake (attrs : List Attribute) :
    (∃ views, List.Forall₂ ReadsAs attrs views) ∨ ∃ fault, FirstMistake attrs fault := by
  induction attrs with
  | nil => exact .inl ⟨[], .nil⟩
  | cons attr attrs ih =>
    rcases readsAs_or_mistake attr with ⟨items, hItems⟩ | ⟨fault, hMistake⟩
    · rcases ih with ⟨views, hViews⟩ | ⟨fault, before, other, after, views, rfl, hBefore, hMistake⟩
      · exact .inl ⟨items :: views, .cons hItems hViews⟩
      · exact .inr ⟨fault, attr :: before, other, after, items :: views, rfl,
          .cons hItems hBefore, hMistake⟩
    · exact .inr ⟨fault, [], attr, attrs, [], rfl, .nil, hMistake⟩

theorem ofAttributes_eq_foldlM (attributes : List Attribute) :
    ofAttributes attributes = (attributes.filter (Carries ·)).foldlM readAttribute {} := by
  have hSame : attributes.filter (·.isNamed attributeName) = attributes.filter (Carries ·) := by
    refine List.filter_congr fun attr _ => ?_
    rw [Bool.eq_iff_iff, isNamed_iff_carries, decide_eq_true_iff]
  rw [ofAttributes, hSame]

/-- Attributes are read in order.  They are accepted exactly if each one that carries settings is
well formed up to its cut, and then the last path that one of their items names is recorded.
Otherwise the complaint is the one that the first mistake deserves, whatever stands behind it.  So
what is read of two lists together is decided by what is read of each. -/
theorem first_mistake_decides (attributes : List Attribute) :
    (∀ settings, ofAttributes attributes = .ok settings ↔
      ∃ views, List.Forall₂ ReadsAs (attributes.filter (Carries ·)) views ∧
        settings.runtime = lastRuntime views.flatten) ∧
    (∀ fault, ofAttributes attributes = .error fault
      ↔ FirstMistake (attributes.filter (Carries ·)) fault) ∧
    (∀ more, ofAttributes (attributes ++ more) = do
      let first ← ofAttributes attributes
      let second ← ofAttributes more
      return ⟨second.runtime.or first.runtime⟩) := by
  refine ⟨fun settings => ?_, fun fault => ?_, fun more => ?_⟩
  · rw [ofAttributes_eq_foldlM]
    constructor
    · intro hRead
      rcases readsAs_or_firstMistake
        (attributes.filter (Carries ·)) with ⟨views, hViews⟩ | ⟨fault, hMistake⟩
      · rw [foldlM_of_readsAs hViews, Except.ok.injEq] at hRead
        refine ⟨views, hViews, ?_⟩
        rw [← hRead, Option.or_none]
      · rw [foldlM_of_firstMistake hMistake] at hRead
        cases hRead
    · rintro ⟨views, hViews, hRuntime⟩
      rw [foldlM_of_readsAs hViews, Option.or_none, ← hRuntime]
  · rw [ofAttributes_eq_foldlM]
    constructor
    · intro hRead
      rcases readsAs_or_firstMistake
        (attributes.filter (Carries ·)) with ⟨views, hViews⟩ | ⟨other, hMistake⟩
      · rw [foldlM_of_readsAs hViews] at hRead
        cases hRead
      · rw [foldlM_of_firstMistake hMistake, Except.error.injEq] at hRead
        exact hRead ▸ hMistake
    · exact fun hMistake => foldlM_of_firstMistake hMistake {}
  · rw [ofAttributes_eq_foldlM, ofAttributes_eq_foldlM, ofAttributes_eq_foldlM, List.filter_append,
      List.foldlM_append]
    -- what the second list adds does not depend on the settings that it starts from
    cases (attributes.filter (Carries ·)).foldlM readAttribute {} with
    | error fault => rfl
    | ok first =>
      rcases readsAs_or_firstMistake
        (more.filter (Carries ·)) with ⟨views, hViews⟩ | ⟨fault, hMistake⟩
      · rw [ok_bind, ok_bind, foldlM_of_readsAs hViews, foldlM_of_readsAs hViews, Option.or_none]
        rfl
      · rw [ok_bind, ok_bind, foldlM_of_firstMistake hMistake, foldlM_of_firstMistake hMistake]
        rfl

/-- The tokens of `level crate`. -/
def uncommaedTrees : List Tree := [wordTree "level", wordTree "crate"]

theorem uncommaedTrees_mistake :
    AttributeMistake (attributeOf uncommaedTrees) ⟨.expected ["`,`"], default⟩ := by
  have hLevel : Item.bare.Heads uncommaedTrees [wordTree "crate"] :=
    .bare (.plain ⟨"level", false⟩ default .nil) (by decide) (.cons rfl (.nil _)) rfl rfl rfl
  exact .content rfl (.separator hLevel (List.cons_ne_nil _ _) rfl)

/-- An attribute that carries settings, without arguments. -/
def bareAttribute : Attribute := ⟨.ofNames false [⟨attributeName, false⟩], default, .bare⟩

/-- A comma is missing in the second attribute and the arguments in the third: only the comma is
complained about. The first attribute alone is read. -/
theorem first_mistake_decides_at_missing_comma :
    ofAttributes [attributeOf crateTrees, attributeOf uncommaedTrees, bareAttribute]
      = .error ⟨.expected ["`,`"], default⟩ ∧
    ofAttributes [attributeOf crateTrees] = .ok ⟨some pathA⟩ := by
  constructor
  · refine ((first_mistake_decides _).2.1 _).mpr ?_
    exact ⟨[attributeOf crateTrees], attributeOf uncommaedTrees, [bareAttribute],
      [[.runtime pathA]], rfl, .cons crateTrees_readsAs .nil, uncommaedTrees_mistake⟩
  · exact ((first_mistake_decides _).1 _).mpr
      ⟨[[.runtime pathA]], .cons crateTrees_readsAs .nil, rfl⟩

end Settings

end Overlay
