import Mathlib.Data.List.TakeWhile
import Overlay.Proofs.AttributeItems

/-!
Unknown keys in the attributes that carry settings.

1. **Data**: an attribute holds ITEMS, separated by commas.  `ItemsSpelled` says which visible
   tokens spell a list of them.
2. **What is read**: a bare or listed unknown item is passed over and no more; an unknown item with
   a value takes everything behind it along.  So the items that are noticed are those in front of
   the first one with a value (`noticed`), and the last of these that names a crate counts
   (`lastRuntime`). `ItemsSpelled.exists_upToCut` finds them in front of the cut.
3. **Deleting the unknown items** makes all the others noticed.  `runtime_of_pruned` says what is
   recorded before and after, hence exactly when it is the same.  It is not always: a value in front
   of `crate` hides it (`value_hides_runtime`).
-/

namespace Overlay

open Reader Cursor Overlay.Tree

namespace Settings

/-! ## Lists of items and how they are spelled -/

/-- The visible tokens that spell items with commas between them; the last comma may stand at the
end. -/
inductive ItemsSpelled : List Item → List Tree → Prop
  | nil : ItemsSpelled [] []
  | last {item : Item} {ts : List Tree} (h : item.Spelled ts) : ItemsSpelled [item] ts
  | cons {item : Item} {items : List Item} {ts us : List Tree} (spacing : Spacing) (s : Span)
      (h : item.Spelled ts) (hItems : ItemsSpelled items us) :
      ItemsSpelled (item :: items) (ts ++ .leaf (.punct ',' spacing) s :: us)

/-! ## What stands behind an item -/

/-- What stands behind an item: nothing, or a comma and more. -/
inductive Follows : List Tree → Prop
  | nothing : Follows []
  | comma (spacing : Spacing) (s : Span) (us : List Tree) :
      Follows (.leaf (.punct ',' spacing) s :: us)

theorem Follows.signAt_colons {us : List Tree} (h : Follows us) : signAt "::".toList us = none := by
  cases h <;> rfl

theorem Follows.signAt_equals {us : List Tree} (h : Follows us) : signAt "=".toList us = none := by
  cases h <;> rfl

theorem Follows.no_group {us : List Tree} (h : Follows us) :
    firstAt (groupOf .parenthesis) us = none := by
  cases h <;> rfl

/-- What is left behind an item: a value takes it all along. -/
def Item.leaves (item : Item) (us : List Tree) : List Tree := if item.isValued then [] else us

/-- An item stands where its tokens do, if nothing follows that would belong to it. -/
theorem Item.Spelled.heads {item : Item} {ts trees rest : List Tree} (h : item.Spelled ts)
    (hPasses : Passes trees ts rest) (hFollows : Follows (visibleAll rest)) :
    item.Heads trees (item.leaves rest) := by
  cases h with
  | runtime spacing s₁ s₂ s₃ hText hPath =>
    exact .runtime (.runtime spacing s₁ s₂ s₃ hText hPath) hPasses
  | bare h hKey =>
    exact .bare h hKey hPasses hFollows.signAt_colons hFollows.signAt_equals hFollows.no_group
  | @valued path ts value spacing s h hKey hValue =>
    -- the cut is behind the `=`, whatever the value and what follows it are
    rw [List.append_cons] at hPasses
    obtain ⟨behind, hEquals, -⟩ := (passes_append _ value).mp hPasses
    exact .valued spacing s h hKey hEquals
  | listed opening closing h hKey => exact .listed (.listed opening closing h hKey) hPasses

/-! ## What is read of all items -/

/-- The items that are noticed: those in front of the first unknown one with a value. -/
def noticed (items : List Item) : List Item := items.takeWhile fun item => !item.isValued

theorem noticed_cons (item : Item) (items : List Item) :
    noticed (item :: items) = if item.isValued then [] else item :: noticed items := by
  rw [noticed, List.takeWhile_cons]
  cases item.isValued <;> rfl

theorem withItem_of_isValued {item : Item} (h : item.isValued = true) (settings : Settings) :
    settings.withItem item = settings := by
  cases item with
  | valued => rfl
  | runtime path => nomatch h
  | bare => nomatch h
  | listed => nomatch h

/-- Items that are spelled are there up to the cut, and all of them that add anything are noticed.
The induction is on the items; the tokens of each are passed before the next comma. -/
theorem ItemsSpelled.exists_upToCut {items : List Item} {vs trees : List Tree}
    (h : ItemsSpelled items vs) (hVisible : visibleAll trees = vs) (hClosed : Closed trees) :
    ∃ view, UpToCut view trees ∧
      ∀ settings, view.foldl withItem settings = (noticed items).foldl withItem settings := by
  induction h generalizing trees with
  | nil =>
    obtain rfl := eq_nil_of_closed hClosed hVisible
    exact ⟨[], .nil, fun settings => rfl⟩
  | @last item ts h =>
    obtain ⟨rest, hPasses, hRest⟩ := exists_passes (hVisible.trans (List.append_nil ts).symm)
    obtain rfl := eq_nil_of_closed (hPasses.closed hClosed) hRest
    have hHeads := h.heads hPasses .nothing
    rw [Item.leaves, ite_self] at hHeads
    refine ⟨[item], .last hHeads, fun settings => ?_⟩
    rw [noticed_cons]
    cases hValued : item.isValued with
    | true => exact withItem_of_isValued hValued settings
    | false => rfl
  | @cons item items ts us spacing s h hItems ih =>
    obtain ⟨rest, hPasses, hRest⟩ := exists_passes hVisible
    have hHeads := h.heads hPasses (hRest ▸ .comma spacing s us)
    rw [noticed_cons]
    cases hValued : item.isValued with
    | true =>
      -- the comma and all behind it went along with the value
      rw [Item.leaves, if_pos hValued] at hHeads
      exact ⟨[item], .last hHeads, withItem_of_isValued hValued⟩
    | false =>
      rw [Item.leaves, if_neg (Bool.eq_false_iff.1 hValued)] at hHeads
      obtain ⟨next, hComma, hNext⟩ := exists_passes (show visibleAll rest = [_] ++ us from hRest)
      obtain ⟨view, hView, hFold⟩ := ih hNext (hComma.closed (hPasses.closed hClosed))
      exact ⟨item :: view, .cons spacing s hHeads hComma hView, fun settings => hFold _⟩

/-! ## Attributes -/

/-- The attribute holds these items, in brackets of any kind and with any invisible groups, except
that no empty one stands at the end. -/
def Holds (attr : Attribute) (items : List Item) : Prop :=
  ∃ delimiter content closing, attr.args = .list delimiter content closing ∧
    Closed content ∧ ItemsSpelled items (visibleAll content)

theorem readAttribute_of_holds {attr : Attribute} {items : List Item} (h : Holds attr items)
    (settings : Settings) :
    readAttribute settings attr = .ok ((noticed items).foldl withItem settings) := by
  obtain ⟨delimiter, content, closing, hArgs, hClosed, hItems⟩ := h
  obtain ⟨view, hView, hFold⟩ := hItems.exists_upToCut rfl hClosed
  rw [readAttribute_of_readsAs ⟨delimiter, content, closing, hArgs, hView⟩, hFold]

/-- Those of the attributes that carry settings hold these items, attribute by attribute. -/
def HoldAll (attributes : List Attribute) (views : List (List Item)) : Prop :=
  List.Forall₂ Holds (attributes.filter (·.isNamed attributeName)) views

theorem ofAttributes_of_holdAll {attributes : List Attribute} {views : List (List Item)}
    (h : HoldAll attributes views) :
    ofAttributes attributes = .ok ⟨lastRuntime (views.flatMap noticed)⟩ := by
  have hFold {attrs : List Attribute} {views : List (List Item)}
      (h : List.Forall₂ Holds attrs views) (settings : Settings) :
      attrs.foldlM readAttribute settings
          = .ok ((views.flatMap noticed).foldl withItem settings) := by
    induction h generalizing settings with
    | nil => rfl
    | cons hAttr hAttrs ih =>
      rw [List.foldlM_cons, readAttribute_of_holds hAttr, List.flatMap_cons, List.foldl_append]
      exact ih _
  rw [ofAttributes, hFold h, foldl_withItem, Option.or_none]

/-! ## Deleting the unknown items -/

/-- Only the paths count that the items of each attribute name. -/
theorem lastRuntime_flatMap_congr {views : List (List Item)} {f g : List Item → List Item}
    (h : ∀ view ∈ views, (f view).filterMap Item.path? = (g view).filterMap Item.path?) :
    lastRuntime (views.flatMap f) = lastRuntime (views.flatMap g) := by
  rw [lastRuntime, lastRuntime, List.filterMap_flatMap, List.filterMap_flatMap,
    List.flatMap_congr h]

/-- No unknown item is left that could hide anything, and no path is lost. -/
theorem filterMap_path?_pruned (view : List Item) :
    (noticed (view.filter Item.isRuntime)).filterMap Item.path? = view.filterMap Item.path? := by
  have hNoticed : noticed (view.filter Item.isRuntime) = view.filter Item.isRuntime := by
    refine List.takeWhile_eq_self_iff.2 fun item hItem => ?_
    have hRuntime := List.of_mem_filter hItem
    cases item with
    | runtime path => rfl
    | bare => nomatch hRuntime
    | valued => nomatch hRuntime
    | listed => nomatch hRuntime
  rw [hNoticed, List.filterMap_filter]
  refine List.filterMap_congr fun item _ => ?_
  rw [Item.isRuntime]
  cases item.path? <;> rfl

/-- Where no path stands behind a value, all paths are noticed. -/
theorem filterMap_path?_noticed {view : List Item}
    (h : ∀ item ∈ view.dropWhile (!·.isValued), item.path? = none) :
    (noticed view).filterMap Item.path? = view.filterMap Item.path? := by
  have hSplit := congrArg (List.filterMap Item.path?)
    (view.takeWhile_append_dropWhile (p := (!·.isValued)))
  rw [List.filterMap_append, List.filterMap_eq_nil_iff.2 h, List.append_nil] at hSplit
  exact hSplit

/-- The tokens of `level = 3`. -/
def levelTrees : List Tree := [wordTree "level", punctTree '=', .leaf (.literal "3") default]

theorem levelTrees_spelled : Item.valued.Spelled levelTrees := by
  have hPath : PathSpelled (false, [⟨"level", false⟩]) [wordTree "level"] := .plain _ default .nil
  refine .valued .alone default hPath (by decide) ?_
  intro spacing s hComma
  nomatch List.mem_singleton.1 hComma

theorem holds_attributeOf {content : List Tree} {items : List Item} (hClosed : Closed content)
    (h : ItemsSpelled items (visibleAll content)) : Holds (attributeOf content) items :=
  ⟨.parenthesis, content, default, rfl, hClosed, h⟩

theorem holdAll_crateTrees : HoldAll [attributeOf crateTrees] [[.runtime pathA]] :=
  .cons (holds_attributeOf (Or.inr rfl) (.last crateTrees_spelled)) .nil

/-! ### What is recorded before and after -/

/-- What is recorded with the unknown items and without them.  It is the same exactly if the last
path that is noticed is the last path of all; so it is where no path stands behind an unknown item
with a value. -/
theorem runtime_of_pruned {attributes pruned : List Attribute} {views : List (List Item)}
    (h : HoldAll attributes views)
    (hPruned : HoldAll pruned (views.map (·.filter Item.isRuntime))) :
    ofAttributes attributes = .ok ⟨lastRuntime (views.flatMap noticed)⟩ ∧
    ofAttributes pruned = .ok ⟨lastRuntime views.flatten⟩ ∧
    (ofAttributes attributes = ofAttributes pruned ↔
      lastRuntime (views.flatMap noticed) = lastRuntime views.flatten) ∧
    ((∀ view ∈ views, ∀ item ∈ view.dropWhile (!·.isValued), item.path? = none) →
      ofAttributes attributes = ofAttributes pruned) := by
  have hBefore := ofAttributes_of_holdAll h
  have hAfter : ofAttributes pruned = .ok ⟨lastRuntime views.flatten⟩ := by
    rw [ofAttributes_of_holdAll hPruned, List.flatMap_map,
      lastRuntime_flatMap_congr fun view _ => filterMap_path?_pruned view, List.flatMap_id']
  refine ⟨hBefore, hAfter, ?_, fun hUnhidden => ?_⟩
  · rw [hBefore, hAfter, Except.ok.injEq, Settings.mk.injEq]
  · have hSame := lastRuntime_flatMap_congr fun view hView =>
      filterMap_path?_noticed (hUnhidden view hView)
    rw [hBefore, hAfter, hSame, List.flatMap_id']

/-- `level, crate::x(y), crate = "a", level = 3`: each form of unknown items, and none hides the
path. -/
def mixedTrees : List Tree :=
  [wordTree "level", punctTree ',', wordTree "crate", .leaf (.punct ':' .joint) default,
    punctTree ':', wordTree "x", .group .parenthesis [wordTree "y"] default default,
    punctTree ','] ++
  crateTrees ++ punctTree ',' :: levelTrees

theorem holdAll_mixedTrees :
    HoldAll [attributeOf mixedTrees] [[.bare, .listed, .runtime pathA, .valued]] := by
  have hBare : Item.bare.Spelled [wordTree "level"] :=
    .bare (.plain ⟨"level", false⟩ default .nil) (by decide)
  have hPath : PathSpelled (false, [⟨"crate", false⟩, ⟨"x", false⟩])
      [wordTree "crate", .leaf (.punct ':' .joint) default, punctTree ':', wordTree "x"] :=
    .plain _ default (.cons _ .alone default default default .nil)
  have hListed : Item.listed.Spelled
      [wordTree "crate", .leaf (.punct ':' .joint) default, punctTree ':', wordTree "x",
          .group .parenthesis [wordTree "y"] default default] :=
    .listed default default hPath (by decide)
  exact .cons (holds_attributeOf (Or.inr rfl)
    (.cons .alone default hBare (.cons .alone default hListed
    (.cons .alone default crateTrees_spelled (.last levelTrees_spelled))))) .nil

theorem runtime_of_pruned_mixed :
    HoldAll [attributeOf mixedTrees] [[.bare, .listed, .runtime pathA, .valued]] ∧
    HoldAll [attributeOf crateTrees] [[.runtime pathA]] ∧
    ofAttributes [attributeOf mixedTrees] = ofAttributes [attributeOf crateTrees] := by
  refine ⟨holdAll_mixedTrees, holdAll_crateTrees,
    (runtime_of_pruned holdAll_mixedTrees holdAll_crateTrees).2.2.2 ?_⟩
  intro view hView item hItem
  obtain rfl := List.mem_singleton.1 hView
  obtain rfl := List.mem_singleton.1 hItem
  rfl

/-- A value in front of `crate = "a"` hides it, and deleting the item with the value uncovers it. -/
theorem value_hides_runtime :
    HoldAll [attributeOf (levelTrees ++ punctTree ',' :: crateTrees)] [[.valued, .runtime pathA]] ∧
    HoldAll [attributeOf crateTrees]
      ([[Item.valued, .runtime pathA]].map (·.filter Item.isRuntime)) ∧
    ofAttributes [attributeOf (levelTrees ++ punctTree ',' :: crateTrees)] = .ok ⟨none⟩ ∧
    ofAttributes [attributeOf crateTrees] = .ok ⟨some pathA⟩ := by
  have hHiding : HoldAll [attributeOf (levelTrees ++ punctTree ',' :: crateTrees)]
      [[.valued, .runtime pathA]] :=
    .cons (holds_attributeOf (Or.inr rfl)
      (.cons .alone default levelTrees_spelled (.last crateTrees_spelled))) .nil
  exact ⟨hHiding, holdAll_crateTrees, ofAttributes_of_holdAll hHiding,
    ofAttributes_of_holdAll holdAll_crateTrees⟩

end Settings

end Overlay
