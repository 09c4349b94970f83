import Mathlib.Data.List.Forall2
import Overlay.Derive.Settings
import Overlay.Proofs.TokenPositions

/-!
Items of the attributes that carry settings, and how they are read.

1. **Data**: an item names the runtime crate, or it is unknown and has one of three forms: a bare
   path, a path with a value behind `=`, a path with a list in parentheses.  `Item.Spelled` says
   which tokens spell an item.
2. **Positions**: `Item.Heads item trees rest` says that an item stands at the front of these trees,
   `UpToCut items trees` that the trees are items with commas between them.  An unknown item with a
   value takes everything behind it along, so that the view of an attribute is cut there, and
   nothing behind the cut counts.
3. **Reading**: `item_moves` is about one item, `items_moves` about all of them.  Each item adds
   what it says to the settings (`withItem`), so that of several paths the last one counts
   (`foldl_withItem`).
-/

namespace Overlay

open Reader Cursor Overlay.Tree

namespace Settings

variable {closing : Span} {trees rest : List Tree}

/-! ## Items and how they are spelled -/

/-- Names that each follow a `::`, with any places. -/
inductive NamesSpelled : List Ident → List Tree → Prop
  | nil : NamesSpelled [] []
  | cons {names : List Ident} {ts : List Tree} (name : Ident) (spacing : Spacing) (s₁ s₂ s₃ : Span)
      (h : NamesSpelled names ts) :
      NamesSpelled (name :: names)
        (.leaf (.punct ':' .joint) s₁ :: .leaf (.punct ':' spacing) s₂
          :: .leaf (.ident name) s₃ :: ts)

/-- A path in front of an item: whether `::` leads it, and its names. -/
inductive PathSpelled : Bool × List Ident → List Tree → Prop
  | plain {names : List Ident} {ts : List Tree} (name : Ident) (s : Span)
      (h : NamesSpelled names ts) :
      PathSpelled (false, name :: names) (.leaf (.ident name) s :: ts)
  | leading {names : List Ident} {ts : List Tree} {name : Ident}
      (h : NamesSpelled (name :: names) ts) :
      PathSpelled (true, name :: names) ts

/-- The path of the one item that is known. -/
def runtimeKey : Bool × List Ident := (false, [⟨"crate", false⟩])

/-- What an item of an attribute is. -/
inductive Item where
  /-- `crate = "path"` -/
  | runtime (path : Path)
  /-- An unknown path alone. -/
  | bare
  /-- An unknown path with a value behind `=`. -/
  | valued
  /-- An unknown path with a list in parentheses. -/
  | listed

namespace Item

/-- The path that an item names. -/
def path? : Item → Option Path
  | runtime path => some path
  | _ => none

/-- The item is known. -/
def isRuntime (item : Item) : Bool := item.path?.isSome

/-- The item is an unknown path with a value. -/
def isValued : Item → Bool
  | valued => true
  | _ => false

/-- The visible tokens that spell an item.  There is no comma in a value, brackets apart. -/
inductive Spelled : Item → List Tree → Prop
  | runtime {text : String} {value : List Char} {path : Path} (spacing : Spacing) (s₁ s₂ s₃ : Span)
      (hText : Text.stringValue? text.toList = some value)
      (hPath : Path.ofText (String.ofList value) = .ok path) :
      Spelled (runtime path)
        [.leaf (.ident ⟨"crate", false⟩) s₁, .leaf (.punct '=' spacing) s₂,
          .leaf (.literal text) s₃]
  | bare {path : Bool × List Ident} {ts : List Tree} (h : PathSpelled path ts)
      (hKey : path ≠ runtimeKey) :
      Spelled bare ts
  | valued {path : Bool × List Ident} {ts value : List Tree} (spacing : Spacing) (s : Span)
      (h : PathSpelled path ts) (hKey : path ≠ runtimeKey)
      (hValue : ∀ spacing s, Tree.leaf (.punct ',' spacing) s ∉ value) :
      Spelled valued (ts ++ .leaf (.punct '=' spacing) s :: value)
  | listed {path : Bool × List Ident} {ts content : List Tree} (opening closing : Span)
      (h : PathSpelled path ts) (hKey : path ≠ runtimeKey) :
      Spelled listed (ts ++ [.group .parenthesis content opening closing])

end Item

/-! ## Items at the front, and items up to the cut -/

/-- The item stands at the front of `trees`, up to `rest`.  Behind the `=` of an unknown item
nothing is looked at. -/
inductive Item.Heads : Item → List Tree → List Tree → Prop
  | runtime {path : Path} {ts trees rest : List Tree} (h : (Item.runtime path).Spelled ts)
      (hPasses : Passes trees ts rest) : Heads (.runtime path) trees rest
  | bare {key : Bool × List Ident} {ts trees rest : List Tree} (h : PathSpelled key ts)
      (hKey : key ≠ runtimeKey)
      (hPasses : Passes trees ts rest) (hColons : NoSign "::" rest) (hEquals : NoSign "=" rest)
      (hGroup : NoGroup .parenthesis rest) : Heads .bare trees rest
  | listed {ts trees rest : List Tree} (h : Item.listed.Spelled ts)
      (hPasses : Passes trees ts rest) :
      Heads .listed trees rest
  | valued {key : Bool × List Ident} {ts trees value : List Tree} (spacing : Spacing) (s : Span)
      (h : PathSpelled key ts) (hKey : key ≠ runtimeKey)
      (hPasses : Passes trees (ts ++ [.leaf (.punct '=' spacing) s]) value) : Heads .valued trees []

/-- The trees are these items with commas between them, up to the first unknown item with a value.
The last comma may stand at the end. -/
inductive UpToCut : List Item → List Tree → Prop
  | nil : UpToCut [] []
  | last {item : Item} {trees : List Tree} (h : item.Heads trees []) : UpToCut [item] trees
  | cons {item : Item} {items : List Item} {trees rest next : List Tree}
      (spacing : Spacing) (s : Span)
      (h : item.Heads trees rest) (hComma : Passes rest [.leaf (.punct ',' spacing) s] next)
      (hItems : UpToCut items next) : UpToCut (item :: items) trees

/-! ## Reading paths -/

/-- Behind the names that have been spelled, the reader asks for further ones. -/
theorem iterate_moreNames_goesOn (closing : Span) {names : List Ident} {ts : List Tree}
    (h : NamesSpelled names ts) (hPasses : Passes trees ts rest) (done : List Ident) (fuel : Nat)
    (hFuel : (visibleAll trees).length < fuel) :
    ∃ left, (visibleAll rest).length < left ∧
      GoesOn (·.Stands closing trees) (iterate moreNames fuel done)
        (·.Stands closing rest) (iterate moreNames left (done ++ names)) := by
  induction h generalizing trees done fuel with
  | nil =>
    cases hPasses
    rw [List.append_nil]
    exact ⟨fuel, hFuel, .refl _ _⟩
  | @cons names ts name spacing s₁ s₂ s₃ h ih =>
    obtain ⟨behind, hColons, hNamed⟩ :=
      (passes_append [_, _] (.leaf (.ident name) s₃ :: ts)).mp hPasses
    obtain ⟨middle, hName, hMore⟩ := (passes_append [_] ts).mp hNamed
    obtain ⟨fuel, rfl⟩ := Nat.exists_eq_succ_of_ne_zero (Nat.ne_zero_of_lt hFuel)
    have hBehind := hColons.length_lt (List.cons_ne_nil _ _)
    have hMiddle := hName.length_lt (List.cons_ne_nil _ _)
    obtain ⟨left, hLeft, hGoesOn⟩ := ih hMore (done ++ [name]) fuel (by omega)
    rw [List.append_assoc] at hGoesOn
    have hStep : Moves closing (moreNames done) trees (.inl (done ++ [name])) middle :=
      .bind (Moves.optSign_some hColons rfl) (.bind (Moves.anyIdent hName) (.pure _))
    exact ⟨left, hLeft, .trans (hStep.goesOn _) hGoesOn⟩

theorem noColons_of_ident {name : Ident} {s : Span}
    (h : Passes trees [.leaf (.ident name) s] rest) :
    NoSign "::" trees := by
  rw [NoSign, h.visibleAll_eq]
  rfl

theorem itemNames_goesOn (closing : Span) {name : Ident} {s : Span} {names : List Ident}
    {ts middle : List Tree} (hName : Passes trees [.leaf (.ident name) s] middle)
    (h : NamesSpelled names ts) (hPasses : Passes middle ts rest) :
    ∃ left, (visibleAll rest).length < left ∧
      GoesOn (·.Stands closing trees) itemNames
        (·.Stands closing rest) (iterate moreNames left (name :: names)) := by
  obtain ⟨fuel, hFuel, hRepeat⟩ := repeatFrom_goesOn closing middle moreNames [name]
  obtain ⟨left, hLeft, hMore⟩ := iterate_moreNames_goesOn closing h hPasses [name] fuel hFuel
  refine ⟨left, hLeft, ?_⟩
  have hPeek : Moves closing (peek hasAnyIdent) trees true trees := by
    obtain ⟨taken, hFound⟩ := first?_of_passes identOf hName rfl
    refine Moves.peek ?_
    rw [hasAnyIdent, ident?_eq, hFound]
    rfl
  exact .trans (hPeek.goesOn _) (.trans ((Moves.anyIdent hName).goesOn _) (.trans hRepeat hMore))

theorem itemPath_goesOn (closing : Span) {key : Bool × List Ident} {ts : List Tree}
    (h : PathSpelled key ts) (hPasses : Passes trees ts rest) :
    ∃ left, (visibleAll rest).length < left ∧
      GoesOn (·.Stands closing trees) itemPath
        (·.Stands closing rest) (do return (key.1, ← iterate moreNames left key.2)) := by
  cases h with
  | @plain names ts name s h =>
    obtain ⟨middle, hName, hMore⟩ := (passes_append [_] ts).mp hPasses
    obtain ⟨left, hLeft, hNames⟩ := itemNames_goesOn closing hName h hMore
    have hPlain : Moves closing (optSign "::") trees false trees :=
      Moves.optSign_none (noColons_of_ident hName)
    exact ⟨left, hLeft, .trans (hPlain.goesOn _) (hNames.bind _)⟩
  | @leading names ts name h =>
    cases h with
    | @cons _ ts _ spacing s₁ s₂ s₃ h =>
      obtain ⟨start, hColons, hNamed⟩ :=
        (passes_append [_, _] (.leaf (.ident name) s₃ :: ts)).mp hPasses
      obtain ⟨middle, hName, hMore⟩ := (passes_append [_] ts).mp hNamed
      obtain ⟨left, hLeft, hNames⟩ := itemNames_goesOn closing hName h hMore
      have hLeading : Moves closing (optSign "::") trees true start :=
        Moves.optSign_some hColons rfl
      exact ⟨left, hLeft, .trans (hLeading.goesOn _) (hNames.bind _)⟩

/-- A path is read up to where no `::` follows. -/
theorem itemPath_moves {key : Bool × List Ident} {ts : List Tree} (h : PathSpelled key ts)
    (hPasses : Passes trees ts rest) (hColons : NoSign "::" rest) :
    Moves closing itemPath trees key rest := by
  obtain ⟨left, hLeft, hGoesOn⟩ := itemPath_goesOn closing h hPasses
  obtain ⟨left, rfl⟩ := Nat.exists_eq_succ_of_ne_zero (Nat.ne_zero_of_lt hLeft)
  have hNames : Moves closing (iterate moreNames (left + 1) key.2) rest key.2 rest :=
    .iterate_stop left (.bind (Moves.optSign_none hColons) (.pure _))
  exact hGoesOn.reads (.bind hNames (.pure _))

/-! ## Reading items -/

/-- The settings with what an item adds to them. -/
def withItem (settings : Settings) (item : Item) : Settings := ⟨item.path?.or settings.runtime⟩

theorem noColons_of_equals {spacing : Spacing} {s : Span}
    (h : Passes trees [.leaf (.punct '=' spacing) s] rest) :
    NoSign "::" trees := by
  rw [NoSign, h.visibleAll_eq]
  rfl

theorem noColons_of_group {delimiter : Delimiter} {content : List Tree} {s₁ s₂ : Span}
    (h : Passes trees [.group delimiter content s₁ s₂] rest) : NoSign "::" trees := by
  rw [NoSign, h.visibleAll_eq]
  rfl

theorem passOver_moves_bare (hEquals : NoSign "=" trees) (hGroup : NoGroup .parenthesis trees) :
    Moves closing passOver trees () trees := by
  refine .bind (Moves.optSign_none hEquals) (.bind (a := false) (Moves.peek ?_) (.pure ()))
  rw [hasGroup, group?_eq (by decide), first?_eq_none hGroup]
  rfl

theorem passOver_moves_valued {spacing : Spacing} {s : Span}
    (h : Passes trees [.leaf (.punct '=' spacing) s] rest) : Moves closing passOver trees () [] :=
  .bind (Moves.optSign_some h rfl) (Moves.remaining_discarded rest)

theorem passOver_moves_listed {content : List Tree} {s₁ s₂ : Span}
    (h : Passes trees [.group .parenthesis content s₁ s₂] rest) :
    Moves closing passOver trees () rest := by
  have hEquals : NoSign "=" trees := by
    rw [NoSign, h.visibleAll_eq]
    rfl
  refine .bind (Moves.optSign_none hEquals) (.bind (a := true) (Moves.peek ?_)
    (Moves.within_discarded (by decide) h))
  obtain ⟨taken, hFound⟩ := first?_of_passes (groupOf .parenthesis) h rfl
  rw [hasGroup, group?_eq (by decide), hFound]
  rfl

/-- The unknown items differ only in what `passOver` takes behind their paths. -/
theorem item_moves_unknown {key : Bool × List Ident} {ts middle : List Tree} (settings : Settings)
    (h : PathSpelled key ts) (hKey : key ≠ runtimeKey) (hPasses : Passes trees ts middle)
    (hColons : NoSign "::" middle) (hPass : Moves closing passOver middle () rest) :
    Moves closing (item settings) trees settings rest := by
  refine .bind (itemPath_moves h hPasses hColons) ?_
  rw [if_neg (show ¬ key = (false, [⟨"crate", false⟩]) from hKey)]
  exact .bind hPass (.pure settings)

/-- Behind `crate` its value is read. -/
theorem item_goesOn_runtime (closing : Span) (settings : Settings) {s : Span}
    (h : Passes trees [.leaf (.ident ⟨"crate", false⟩) s] rest) (hColons : NoSign "::" rest) :
    GoesOn (·.Stands closing trees) (item settings) (·.Stands closing rest)
      (do return { settings with runtime := some (← runtimePath) }) :=
  (itemPath_moves (.plain _ s .nil) h hColons).goesOn _

theorem item_moves {item : Item} (settings : Settings) (h : item.Heads trees rest) :
    Moves closing (Settings.item settings) trees (settings.withItem item) rest := by
  cases h with
  | runtime h hPasses =>
    cases h with
    | runtime spacing s₁ s₂ s₃ hText hPath =>
      obtain ⟨valued, hCrate, hValued⟩ := (passes_append [_] [_, _]).mp hPasses
      obtain ⟨middle, hEquals, hLiteral⟩ := (passes_append [_] [_]).mp hValued
      obtain ⟨taken, hFound⟩ := signedLiteral?_of_passes hLiteral
      refine (item_goesOn_runtime closing settings hCrate (noColons_of_equals hEquals)).reads
        (.bind ?_ (.pure _))
      refine .bind (Moves.sign hEquals rfl) (.bind (Moves.literal hFound) ?_)
      simp only [hText, hPath]
      exact .pure _
  | bare h hKey hPasses hColons hEquals hGroup =>
    exact item_moves_unknown settings h hKey hPasses hColons (passOver_moves_bare hEquals hGroup)
  | listed h hPasses =>
    cases h with
    | @listed key ts content opening closing' h hKey =>
      obtain ⟨middle, hPath, hGroup⟩ := (passes_append ts _).mp hPasses
      exact item_moves_unknown settings h hKey hPath (noColons_of_group hGroup)
        (passOver_moves_listed hGroup)
  | @valued key ts _ value spacing s h hKey hPasses =>
    obtain ⟨middle, hPath, hEquals⟩ := (passes_append ts _).mp hPasses
    exact item_moves_unknown settings h hKey hPath (noColons_of_equals hEquals)
      (passOver_moves_valued hEquals)

/-! ## Reading the content of an attribute -/

theorem Item.Heads.length_lt {item : Item} (h : item.Heads trees rest) :
    (visibleAll rest).length < (visibleAll trees).length := by
  have hPath {key : Bool × List Ident} {ts : List Tree} (h : PathSpelled key ts) : ts ≠ [] := by
    cases h with
    | plain name s h => exact List.cons_ne_nil _ _
    | leading h => cases h; exact List.cons_ne_nil _ _
  cases h with
  | runtime h hPasses =>
    cases h
    exact hPasses.length_lt (List.cons_ne_nil _ _)
  | bare h hKey hPasses hColons hEquals hGroup => exact hPasses.length_lt (hPath h)
  | listed h hPasses =>
    cases h
    exact hPasses.length_lt (List.append_ne_nil_of_right_ne_nil _ (List.cons_ne_nil _ _))
  | valued spacing s h hKey hPasses =>
    have hShorter := hPasses.length_lt (List.append_ne_nil_of_right_ne_nil _ (List.cons_ne_nil _ _))
    rw [visibleAll, List.length_nil]
    omega

theorem Item.Heads.ne_nil {item : Item} (h : item.Heads trees rest) : trees ≠ [] := by
  rintro rfl
  exact absurd h.length_lt (Nat.not_lt_zero _)

/-- Behind an item, a comma is asked for unless nothing is left. -/
theorem moreItems_goesOn (closing : Span) (settings : Settings) {item : Item}
    (h : item.Heads trees rest) :
    GoesOn (·.Stands closing trees) (moreItems settings) (·.Stands closing rest) (do
      if ← isEmpty then return .inr (settings.withItem item)
      sign ","
      return .inl (settings.withItem item)) :=
  .trans ((Moves.isEmpty_false h.ne_nil).goesOn _) ((item_moves settings h).goesOn _)

theorem moreItems_moves_comma (settings : Settings) {item : Item} {next : List Tree}
    {spacing : Spacing} {s : Span} (h : item.Heads trees rest)
    (hComma : Passes rest [.leaf (.punct ',' spacing) s] next) :
    Moves closing (moreItems settings) trees (.inl (settings.withItem item)) next :=
  (moreItems_goesOn closing settings h).reads
    (.bind (Moves.isEmpty_false hComma.ne_nil) (.bind (Moves.sign hComma rfl) (.pure _)))

/-- The induction is on the items; each comma shortens what is left. -/
theorem iterate_moreItems_moves {items : List Item} (h : UpToCut items trees) (settings : Settings)
    (fuel : Nat) (hFuel : (visibleAll trees).length < fuel) :
    Moves closing (iterate moreItems fuel settings) trees (items.foldl withItem settings) [] := by
  induction h generalizing settings fuel with
  | nil =>
    obtain ⟨fuel, rfl⟩ := Nat.exists_eq_succ_of_ne_zero (Nat.ne_zero_of_lt hFuel)
    exact .iterate_stop fuel (.bind (Moves.isEmpty []) (.pure _))
  | @last item trees h =>
    obtain ⟨fuel, rfl⟩ := Nat.exists_eq_succ_of_ne_zero (Nat.ne_zero_of_lt hFuel)
    refine .iterate_stop fuel ((moreItems_goesOn closing settings h).reads ?_)
    exact .bind (Moves.isEmpty []) (.pure _)
  | @cons item items trees rest next spacing s h hComma hItems ih =>
    obtain ⟨fuel, rfl⟩ := Nat.exists_eq_succ_of_ne_zero (Nat.ne_zero_of_lt hFuel)
    have hItem := h.length_lt
    have hNext := hComma.length_lt (List.cons_ne_nil _ _)
    exact .iterate_again (moreItems_moves_comma settings h hComma)
      (ih (settings.withItem item) fuel (by omega))

theorem items_moves {items : List Item} (settings : Settings) (h : UpToCut items trees) :
    Moves closing (Settings.items settings) trees (items.foldl withItem settings) [] := by
  obtain ⟨fuel, hFuel, hGoesOn⟩ := repeatFrom_goesOn closing trees moreItems settings
  exact hGoesOn.reads (iterate_moreItems_moves h settings fuel hFuel)

/-! ## Reading attributes -/

/-- The path that counts: the last one that an item names. -/
def lastRuntime (items : List Item) : Option Path := (items.filterMap Item.path?).getLast?

theorem foldl_withItem (items : List Item) (settings : Settings) :
    items.foldl withItem settings = ⟨(lastRuntime items).or settings.runtime⟩ := by
  induction items generalizing settings with
  | nil => rfl
  | cons item items ih =>
    rw [List.foldl_cons, ih, lastRuntime, lastRuntime, List.filterMap_cons]
    cases hPath : item.path? with
    | none => rw [withItem, hPath, Option.none_or]
    | some path =>
      rw [withItem, hPath, Option.some_or, List.getLast?_cons, Option.some_or]
      cases (items.filterMap Item.path?).getLast? <;> rfl

/-- The attribute has arguments in brackets, and up to the cut they are these items. -/
def ReadsAs (attr : Attribute) (items : List Item) : Prop :=
  ∃ delimiter content closing, attr.args = .list delimiter content closing ∧ UpToCut items content

theorem readAttribute_of_readsAs {attr : Attribute} {items : List Item} (h : ReadsAs attr items)
    (settings : Settings) : readAttribute settings attr = .ok (items.foldl withItem settings) := by
  obtain ⟨delimiter, content, closing, hArgs, hItems⟩ := h
  rw [readAttribute, hArgs]
  exact Moves.complete (items_moves settings hItems)

theorem foldlM_of_readsAs {attrs : List Attribute} {views : List (List Item)}
    (h : List.Forall₂ ReadsAs attrs views) (settings : Settings) :
    attrs.foldlM readAttribute settings
      = .ok ⟨(lastRuntime views.flatten).or settings.runtime⟩ := by
  rw [← foldl_withItem]
  induction h generalizing settings with
  | nil => rfl
  | cons hAttr hAttrs ih =>
    rw [List.foldlM_cons, readAttribute_of_readsAs hAttr, List.flatten_cons, List.foldl_append]
    exact ih _

/-! ### Tokens at no place in particular -/

/-- A word as a token. -/
def wordTree (name : String) : Tree := .leaf (.ident ⟨name, false⟩) default

/-- A punctuation character that glues to nothing, as a token. -/
def punctTree (c : Char) : Tree := .leaf (.punct c .alone) default

/-- The tokens of `crate = "a"`. -/
def crateTrees : List Tree := [wordTree "crate", punctTree '=', .leaf (.literal "\"a\"") default]

/-- The path `a`. -/
def pathA : Path := .ofNames false [⟨"a", false⟩]

/-- An attribute that carries settings, with this content in parentheses. -/
def attributeOf (content : List Tree) : Attribute :=
  ⟨.ofNames false [⟨attributeName, false⟩], default, .list .parenthesis content default⟩

set_option maxRecDepth 2000 in
theorem crateTrees_spelled : (Item.runtime pathA).Spelled crateTrees :=
  .runtime .alone default default default rfl rfl

theorem crateTrees_readsAs : ReadsAs (attributeOf crateTrees) [.runtime pathA] :=
  ⟨.parenthesis, crateTrees, default, rfl,
    .last (.runtime crateTrees_spelled (.cons rfl (.cons rfl (.cons rfl (.nil _)))))⟩

end Settings

end Overlay
