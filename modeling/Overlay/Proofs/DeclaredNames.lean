import Overlay.Grammar.Source
import Overlay.Proofs.ReaderRules

/-!
Which names the fields of a declaration can have that was read from a text, and which keyword it
has.

`Reader.Gives reader P` is partial correctness: whatever the reader gives satisfies `P`, wherever it
stands.  It passes through every combinator of readers, and so from the rule for one field, which is
the only place where a name of a field is read (`namedField_gives`), up to whole declarations.  What
a declaration is read as is decided by its keyword (`declarationKeyword_tells`), which stands behind
its attributes and its visibility.

Main statements: `SourceText.declaration?_names`.  A declared field has a name that is no keyword,
or it is called `_`.  `SourceText.declaration?_keyword`.  Where the place of the keyword is noted,
the keyword stands that opens declarations of this kind.
-/

namespace Overlay

namespace Reader

/-- The identifier that is taken where a keyword stands is the keyword. -/
theorem eq_of_anyIdent {word : String} {input next : Input} {name : Ident}
    (hWord : Cursor.hasWord word input.trees = true) (h : anyIdent input = .ok (name, next)) :
    name = ⟨word, false⟩ := by
  rw [Cursor.hasWord] at hWord
  obtain ⟨_, _, hGet, hTake⟩ := bind_eq_ok h
  cases hGet
  cases hFound : Cursor.ident? input.trees with
  | none =>
    rw [hFound] at hWord
    nomatch hWord
  | some found =>
    rw [hFound] at hWord
    simp only [hFound] at hTake
    cases hTake
    exact of_decide_eq_true hWord

/-- A word that may be missing is there exactly if it is seen; if not, nothing is taken. -/
theorem eq_of_optWord {word : String} {input next : Input} {found : Bool}
    (h : optWord word input = .ok (found, next)) :
    found = Cursor.hasWord word input.trees ∧ (found = false → next = input) := by
  obtain ⟨seen, middle, hPeek, hRest⟩ := bind_eq_ok h
  cases hPeek
  cases hWord : Cursor.hasWord word input.trees with
  | true =>
    rw [hWord] at hRest
    obtain ⟨_, _, -, hPure⟩ := bind_eq_ok hRest
    cases hPure
    exact ⟨rfl, nofun⟩
  | false =>
    rw [hWord] at hRest
    cases hRest
    exact ⟨rfl, fun _ => rfl⟩

/-- Looking at a place takes nothing. -/
theorem eq_of_place {input next : Input} {span : Span} (h : place input = .ok (span, next)) :
    next = input := by
  obtain ⟨_, _, hGet, hRest⟩ := bind_eq_ok h
  cases hGet
  cases hTrees : input.trees with
  | nil =>
    simp only [hTrees] at hRest
    cases hRest
    rfl
  | cons t ts =>
    simp only [hTrees] at hRest
    cases hRest
    rfl

end Reader

/-! ## Fields and declarations -/

/-- The name that stands for none. -/
def Ident.underscore : Ident := ⟨"_", false⟩

/-- A field can be called so: the name is no keyword, or an underscore. -/
def Field.IsNamed (field : Field) : Prop :=
  Cursor.isName field.name = true ∨ field.name = Ident.underscore

/-- All fields of a declared record can be called as they are. -/
def Body.IsNamed : Body → Prop
  | .record fields => ∀ field ∈ fields, field.IsNamed
  | .other _ => True

/-- The keyword that opens a declaration with this body. -/
def Body.keyword : Body → String
  | .record _ => "struct"
  | .other kind => kind.keyword

/-- What may be read behind this keyword: a body that the keyword opens, with fields that can be
called as they are. -/
structure Body.IsBehind (body : Body) (word : String) : Prop where
  named : body.IsNamed
  keyword : body.keyword = word

namespace Grammar

open Reader Cursor

theorem fieldTyped_gives (g : Grammar) (attributes : List Attribute) (visibility : Visibility)
    (unnamed : Bool) (name : Ident) :
    Gives (g.fieldTyped attributes visibility unnamed name) fun field => field.name = name := by
  refine .after fun _ => .after fun nested => .ite (.after fun p => ?_) (.after fun p => ?_)
  · exact .pure rfl
  · exact .pure rfl

/-- The one place where the name of a field is read.  An identifier of any kind is taken only where
an underscore has been seen. -/
theorem namedField_gives (g : Grammar) : Gives g.namedField Field.IsNamed := by
  refine .after fun attributes => .after fun visibility => ?_
  intro input field last h
  obtain ⟨unnamed, middle, hPeek, hRest⟩ := bind_eq_ok h
  cases hPeek
  cases hUnnamed : hasWord "_" input.trees with
  | true =>
    rw [hUnnamed] at hRest
    obtain ⟨name, middle, hName, hTyped⟩ := bind_eq_ok hRest
    refine Or.inr ?_
    rw [fieldTyped_gives g attributes visibility true name middle field last hTyped]
    exact eq_of_anyIdent hUnnamed hName
  | false =>
    rw [hUnnamed] at hRest
    obtain ⟨name, middle, hName, hTyped⟩ := bind_eq_ok hRest
    refine Or.inl ?_
    rw [fieldTyped_gives g attributes visibility false name middle field last hTyped]
    exact name_gives input name middle hName

theorem fields_gives (depth : Nat) :
    Gives (atDepth depth).fields fun fields => ∀ field ∈ fields.1, field.IsNamed := by
  cases depth with
  | zero => exact .fail _
  | succ depth => exact .within (.terminated (namedField_gives (atDepth depth)))

theorem tupleTail_gives (g : Grammar) (fields : Code) :
    Gives (g.tupleTail fields) fun tail => tail.body.IsBehind "struct" :=
  .after fun _ => .after fun _ => .ite (.pure ⟨True.intro, rfl⟩) (.missing _)

theorem structTail_gives (depth : Nat) :
    Gives (atDepth depth).structTail fun tail => tail.body.IsBehind "struct" := by
  refine .after fun conditions => .after fun _ => .ite ?_ (.after fun _ => .ite ?_ ?_)
  · exact .after fun fields => tupleTail_gives _ fields
  · exact .bind (fields_gives depth) fun fields hFields => .pure ⟨hFields, rfl⟩
  · exact .after fun _ => .ite (.pure ⟨True.intro, rfl⟩) (.missing _)

theorem enumTail_gives (g : Grammar) : Gives g.enumTail fun tail => tail.body.IsBehind "enum" :=
  .after fun _ => .after fun _ => .pure ⟨True.intro, rfl⟩

theorem unionTail_gives (g : Grammar) : Gives g.unionTail fun tail => tail.body.IsBehind "union" :=
  .after fun _ => .after fun _ => .pure ⟨True.intro, rfl⟩

/-- **The keyword that stands here tells what is read.**  The three keywords are looked for one
after the other, and nothing is taken before one is found. -/
theorem declarationKeyword_tells {depth : Nat} {input next : Input} {tail : Reader DeclarationTail}
    (h : (atDepth depth).declarationKeyword input = .ok (tail, next)) :
    ∃ word, hasWord word input.trees = true ∧ Gives tail fun t => t.body.IsBehind word := by
  obtain ⟨isStruct, _, hStruct, hNoStruct⟩ := bind_eq_ok h
  obtain ⟨hSeenStruct, hStayStruct⟩ := eq_of_optWord hStruct
  cases isStruct with
  | true =>
    cases hNoStruct
    exact ⟨"struct", hSeenStruct.symm, structTail_gives depth⟩
  | false =>
    -- nothing was taken, so that the next keyword is looked for at the same place
    obtain rfl := hStayStruct rfl
    obtain ⟨isEnum, _, hEnum, hNoEnum⟩ := bind_eq_ok hNoStruct
    obtain ⟨hSeenEnum, hStayEnum⟩ := eq_of_optWord hEnum
    cases isEnum with
    | true =>
      cases hNoEnum
      exact ⟨"enum", hSeenEnum.symm, enumTail_gives _⟩
    | false =>
      obtain rfl := hStayEnum rfl
      obtain ⟨isUnion, _, hUnion, hNoUnion⟩ := bind_eq_ok hNoEnum
      obtain ⟨hSeenUnion, -⟩ := eq_of_optWord hUnion
      cases isUnion with
      | true =>
        cases hNoUnion
        exact ⟨"union", hSeenUnion.symm, unionTail_gives _⟩
      | false => exact (Gives.missing _ (P := fun _ => False) _ _ _ hNoUnion).elim

/-- A declaration, from its attributes to its keyword: what is read before, and what stands there
then. -/
theorem declaration_stages {depth : Nat} {input last : Input} {d : Declaration}
    (h : (atDepth depth).declaration input = .ok (d, last)) :
    d.body.IsNamed ∧ ∃ middle keyword,
      (atDepth depth).outerAttributes input = .ok (d.attributes, middle)
        ∧ visibility middle = .ok (d.visibility, keyword)
        ∧ hasWord d.body.keyword keyword.trees = true
        ∧ place keyword = .ok (d.keyword, keyword) := by
  obtain ⟨attributes, middle, hAttributes, hFromVisibility⟩ := bind_eq_ok h
  obtain ⟨visibility, keyword, hVisibility, hFromPlace⟩ := bind_eq_ok hFromVisibility
  obtain ⟨span, _, hPlace, hFromKeyword⟩ := bind_eq_ok hFromPlace
  -- so the keyword is read where its place was noted
  obtain rfl := eq_of_place hPlace
  obtain ⟨tail, _, hKeyword, hFromName⟩ := bind_eq_ok hFromKeyword
  obtain ⟨word, hWord, hTail⟩ := declarationKeyword_tells hKeyword
  obtain ⟨name, _, -, hFromGenerics⟩ := bind_eq_ok hFromName
  obtain ⟨generics, _, -, hFromTail⟩ := bind_eq_ok hFromGenerics
  obtain ⟨read, _, hRead, hReturn⟩ := bind_eq_ok hFromTail
  have hBody := hTail _ _ _ hRead
  cases hReturn
  refine ⟨hBody.named, middle, _, hAttributes, hVisibility, ?_, hPlace⟩
  show hasWord read.body.keyword _ = true
  rw [hBody.keyword]
  exact hWord

end Grammar

namespace SourceText

variable {source : SourceText} {d : Declaration}

/-- A declaration that was read from a text was read from its trees. -/
theorem exists_of_declaration? (h : source.declaration? = some d) :
    ∃ trees last, source.trees? = some trees
      ∧ (Grammar.deepEnough trees).declaration ⟨trees, default, none, []⟩ = .ok (d, last) := by
  rw [declaration?, read?] at h
  obtain ⟨trees, hTrees, hRead⟩ := Option.bind_eq_some_iff.1 h
  cases hDeclaration : Declaration.ofTrees trees with
  | error fault =>
    rw [hDeclaration] at hRead
    nomatch hRead
  | ok value =>
    rw [hDeclaration] at hRead
    cases hRead
    obtain ⟨last, hLast⟩ := Reader.exists_of_complete hDeclaration
    exact ⟨trees, last, hTrees, hLast⟩

/-- Every field of a declaration that was read from a text can be called as it is. -/
theorem declaration?_names (h : source.declaration? = some d) : d.body.IsNamed := by
  obtain ⟨trees, last, -, hRead⟩ := exists_of_declaration? h
  exact (Grammar.declaration_stages hRead).1

end SourceText

/-- In this text, the keyword of the declaration stands here: behind its attributes and its
visibility, at the place that was noted for it. -/
structure Declaration.KeywordAt (d : Declaration) (source : SourceText) (input : Input) : Prop where
  behind : ∃ trees middle, source.trees? = some trees
    ∧ (Grammar.deepEnough trees).outerAttributes ⟨trees, default, none, []⟩
      = .ok (d.attributes, middle)
    ∧ Grammar.visibility middle = .ok (d.visibility, input)
  word : Cursor.hasWord d.body.keyword input.trees = true
  place : Reader.place input = .ok (d.keyword, input)

/-- **A declaration that was read from a text has the keyword of its kind.** -/
theorem SourceText.declaration?_keyword {source : SourceText} {d : Declaration}
    (h : source.declaration? = some d) : ∃ input, d.KeywordAt source input := by
  obtain ⟨trees, last, hTrees, hRead⟩ := exists_of_declaration? h
  obtain ⟨-, middle, keyword, hAttributes, hVisibility, hWord, hPlace⟩ :=
    Grammar.declaration_stages hRead
  exact ⟨keyword, ⟨trees, middle, hTrees, hAttributes, hVisibility⟩, hWord, hPlace⟩

end Overlay
