import Overlay.Grammar.Source
import Overlay.Proofs.AttributeItems
import Overlay.Proofs.Essentials
import Overlay.Proofs.LiteralEntries
import Overlay.Proofs.WrittenTokens

/-!
The path of the runtime crate, from the text of a literal to the header of an implementation.

TEXT     `PathText` says how a path may be written: with any gaps around its signs.  All that is
         written like that consists of the same tokens (`PathText.lexes`).
PATH     from these tokens the grammar reads the path (`PathText.ofText_eq_ok`): none of its names
         has arguments, for behind each of them stands another `::` and a name, or nothing.
CODE     the path is printed with one blank around each sign (`Path.text_code`), which is again a
         way to write it (`pathText_joined`).

An attribute with such a path is read whatever the spelling of its literal
(`attributes?_runtimeAttribute`), and of the attributes with settings the last one decides
(`Settings.ofAttributes_eq_ok_iff`).
-/

namespace Overlay

open Lexer (Gap LastGap Lexes EndsWord codePieces isWritable)

/-! ## Paths of plain names as code -/

namespace Path

/-- The code of further names, each behind a `::`. -/
def namesCode (names : List Ident) : Code :=
  names.flatMap fun name => Token.sign [':', ':'] ++ [.ident name]

theorem namesCode_cons (name : Ident) (names : List Ident) :
    namesCode (name :: names) = .atom (.punct ':' .joint) :: .punct ':' :: .ident name
      :: namesCode names := rfl

theorem segmentsCode_plain (name : Ident) (names : List Ident) :
    segmentsCode ((name :: names).map Segment.plain) = .ident name :: namesCode names := by
  induction names generalizing name with
  | nil => rfl
  | cons next names ih =>
    rw [List.map_cons, List.map_cons, segmentsCode, ← List.map_cons, ih]
    rfl

theorem code_plain (name : Ident) (names : List Ident) :
    (ofNames false (name :: names)).code = .ident name :: namesCode names := by
  rw [ofNames, Path.code, segmentsCode_plain]
  rfl

theorem code_leading (name : Ident) (names : List Ident) :
    (ofNames true (name :: names)).code = namesCode (name :: names) := by
  rw [ofNames, Path.code, segmentsCode_plain]
  rfl

/-- A further name is one more segment. -/
theorem code_concat (leading : Bool) (name : Ident) (names : List Ident) (last : Ident) :
    (ofNames leading (name :: names)).code ++ Token.sign [':', ':'] ++ [.ident last]
      = (ofNames leading (name :: (names ++ [last]))).code := by
  cases leading with
  | false => simp [code_plain, namesCode]
  | true => simp [code_leading, namesCode]

/-- The characters of further names, with one blank around each `::`. -/
def namesChars (names : List Ident) : List Char :=
  names.flatMap fun name => " :: ".toList ++ name.text.toList

theorem charsOf_names (name : Ident) (names : List Ident) :
    Token.charsOf (.ident name :: namesCode names) = name.text.toList ++ namesChars names := by
  induction names generalizing name with
  | nil => exact (List.append_nil _).symm
  | cons next names ih =>
    rw [namesCode_cons, Token.charsOf, Token.charsOf, Token.charsOf, ih, List.append_assoc]
    rfl

theorem toList_intercalate_names (name : Ident) (names : List Ident) :
    (" :: ".intercalate ((name :: names).map Ident.text)).toList
      = name.text.toList ++ namesChars names := by
  induction names generalizing name with
  | nil =>
    rw [List.map_singleton, String.intercalate_singleton, namesChars, List.flatMap_nil,
      List.append_nil]
  | cons next names ih =>
    rw [List.map_cons, List.map_cons, String.intercalate_cons_cons, ← List.map_cons,
      String.toList_append, String.toList_append, ih, namesChars, namesChars, List.flatMap_cons]
    simp only [List.append_assoc]

/-- The names of a path in order, joined by signs with a blank on either side; one may lead them. -/
def joined (leading : Bool) (names : List Ident) : String :=
  (if leading then ":: " else "") ++ " :: ".intercalate (names.map Ident.text)

/-- **A path of plain names is printed with its names joined.** -/
theorem text_code (leading : Bool) (name : Ident) (names : List Ident) :
    (ofNames leading (name :: names)).code.text = joined leading (name :: names) := by
  rw [← String.toList_inj, Code.text, String.toList_ofList, joined, String.toList_append,
    toList_intercalate_names]
  cases leading with
  | false => rw [code_plain, charsOf_names]; rfl
  | true =>
    rw [code_leading, namesCode_cons, Token.charsOf, Token.charsOf, charsOf_names]
    rfl

/-- A further name is joined like the others. -/
theorem text_code_concat (leading : Bool) (name : Ident) (names : List Ident) (last : Ident) :
    Code.text ((ofNames leading (name :: names)).code ++ Token.sign [':', ':'] ++ [.ident last])
      = joined leading (name :: names) ++ (" :: " ++ last.text) := by
  rw [code_concat, text_code, ← String.toList_inj]
  simp only [joined, String.toList_append, toList_intercalate_names, namesChars,
    List.flatMap_append, List.flatMap_cons, List.flatMap_nil, List.append_nil, List.append_assoc]

end Path

/-! ## Writing a path -/

/-- Further names, each behind a `::` with any gaps around it. -/
inductive NamesText : List Ident → List Char → Prop
  | nil : NamesText [] []
  | cons {name : Ident} {names : List Ident} {before behind rest : List Char} (hBefore : Gap before)
      (hBehind : Gap behind) (h : NamesText names rest) :
      NamesText (name :: names) (before ++ ':' :: ':' :: (behind ++ (name.text.toList ++ rest)))

/-- A path of plain names: whether `::` leads it, and its names. -/
inductive PathText : Bool → List Ident → List Char → Prop
  | plain {name : Ident} {names : List Ident} {front rest back : List Char} (hFront : Gap front)
      (h : NamesText names rest) (hBack : LastGap back) :
      PathText false (name :: names) (front ++ (name.text.toList ++ (rest ++ back)))
  | leading {name : Ident} {names : List Ident} {rest back : List Char}
      (h : NamesText (name :: names) rest)
      (hBack : LastGap back) : PathText true (name :: names) (rest ++ back)

theorem PathText.exists_cons {leading : Bool} {names : List Ident} {cs : List Char}
    (h : PathText leading names cs) :
    ∃ first more, names = first :: more := by
  cases h with
  | plain => exact ⟨_, _, rfl⟩
  | leading => exact ⟨_, _, rfl⟩

theorem NamesText.endsWord {names : List Ident} {cs back : List Char} (h : NamesText names cs)
    (hBack : EndsWord back) :
    EndsWord (cs ++ back) := by
  cases h with
  | nil => exact hBack
  | cons hBefore hBehind h =>
    rw [List.append_assoc]
    exact hBefore.endsWord (Lexer.endsWord_cons (by decide) (by decide) _)

/-- No sign glues to a word. -/
theorem startsPunct_word {name : Ident} (h : isWritable name = true) (rest : List Char) :
    Lexer.startsPunct (name.text.toList ++ rest) = false := by
  obtain ⟨c, cs, hText, hStart⟩ := Lexer.exists_text_eq_cons h
  rw [hText]
  exact Lexer.startsPunct_eq_false
    (Lexer.not_mem_marks_of_isIdentContinue (Unicode.isIdentContinue_of_isIdentStart hStart)) _

/-- The induction is on the names; a gap ends the word before it and adds no token. -/
theorem NamesText.lexes {names : List Ident} {cs back : List Char} (h : NamesText names cs)
    (hNames : ∀ name ∈ names, isWritable name = true) (hBack : LastGap back) :
    Lexes (cs ++ back) (codePieces (Path.namesCode names)) := by
  induction h with
  | nil => exact .lastGap hBack
  | @cons name names before behind rest hBefore hBehind h ih =>
    have hName := hNames name List.mem_cons_self
    have hWord := Lexes.word hName (h.endsWord hBack.endsWord)
      (ih fun next hNext => hNames next (.tail name hNext))
    have hColons := Lexes.colons (hBehind.startsPunct_eq_false (startsPunct_word hName _))
      (.gap hBehind hWord)
    rw [List.append_assoc, List.cons_append, List.cons_append, List.append_assoc, List.append_assoc]
    exact .gap hBefore hColons

/-- **However it is written, a path consists of its tokens.** -/
theorem PathText.lexes {leading : Bool} {names : List Ident} {cs : List Char}
    (h : PathText leading names cs) (hNames : ∀ name ∈ names, isWritable name = true) :
    Lexes cs (codePieces (Path.ofNames leading names).code) := by
  cases h with
  | @plain name names front rest back hFront h hBack =>
    have hMore := h.lexes (fun next hNext => hNames next (.tail name hNext)) hBack
    rw [Path.code_plain]
    exact .gap hFront (.word (hNames name List.mem_cons_self) (h.endsWord hBack.endsWord) hMore)
  | leading h hBack =>
    rw [Path.code_leading]
    exact h.lexes hNames hBack

theorem namesText_namesChars (names : List Ident) : NamesText names (Path.namesChars names) := by
  induction names with
  | nil => exact .nil
  | cons name names ih =>
    rw [Path.namesChars, List.flatMap_cons, List.append_assoc]
    exact .cons Gap.space Gap.space ih

/-- **As it is printed, a path may be written.** -/
theorem pathText_joined (leading : Bool) (name : Ident) (names : List Ident) :
    PathText leading (name :: names) (Path.joined leading (name :: names)).toList := by
  have hMore := namesText_namesChars names
  have hBack : LastGap [] := .gap .nil
  rw [Path.joined, String.toList_append, Path.toList_intercalate_names]
  cases leading with
  | false =>
    have hText : PathText false (name :: names)
        ([] ++ (name.text.toList ++ (Path.namesChars names ++ []))) :=
      .plain .nil hMore hBack
    rwa [List.append_nil] at hText
  | true =>
    have hText : PathText true (name :: names) _ := .leading (.cons .nil Gap.space hMore) hBack
    rwa [List.append_nil] at hText

/-! ## Reading a path -/

open Settings (NamesSpelled PathSpelled)

theorem namesSpelled_of_codeOf {names : List Ident} {trees : List Tree}
    (h : Tree.codeOf trees = Path.namesCode names) :
    NamesSpelled names trees := by
  induction names generalizing trees with
  | nil =>
    obtain rfl := Tree.eq_nil_of_codeOf h
    exact .nil
  | cons name names ih =>
    obtain ⟨s₁, ts, rfl, h₁⟩ := Tree.eq_leaf_of_codeOf h
    obtain ⟨s₂, ts, rfl, h₂⟩ := Tree.eq_leaf_of_codeOf h₁
    obtain ⟨s₃, ts, rfl, h₃⟩ := Tree.eq_leaf_of_codeOf h₂
    exact .cons name .alone s₁ s₂ s₃ (ih h₃)

theorem pathSpelled_of_codeOf {leading : Bool} {name : Ident} {names : List Ident}
    {trees : List Tree} (h : Tree.codeOf trees = (Path.ofNames leading (name :: names)).code) :
    PathSpelled (leading, name :: names) trees := by
  cases leading with
  | false =>
    rw [Path.code_plain] at h
    obtain ⟨s, ts, rfl, hMore⟩ := Tree.eq_leaf_of_codeOf h
    exact .plain name s (namesSpelled_of_codeOf hMore)
  | true =>
    rw [Path.code_leading] at h
    exact .leading (namesSpelled_of_codeOf h)

/-- Keywords that are segments of paths. -/
def Path.keywords : List String := ["self", "Self", "super", "crate"]

/-- The identifier may be a segment of a path: a name, raw ones included, or one of four
keywords. -/
def Path.isSegment (name : Ident) : Bool :=
  Cursor.isName name || (!name.raw && Path.keywords.contains name.name)

namespace Grammar

open Reader Cursor

variable (g : Grammar)

/-- Behind the name of a segment there are no arguments: neither `<` nor `::<` follows. -/
theorem segment_runs {name : Ident} (hName : Path.isSegment name = true) (s : Span)
    {names : List Ident} {ts : List Tree} (h : NamesSpelled names ts) :
    Runs (g.segment false) (.leaf (.ident name) s :: ts) (.plain name) ts := by
  rcases Bool.or_eq_true_iff.mp hName with hPlain | hKeyword
  · have hWord (word : String) (hMem : word ∈ Cursor.keywords) := hasWord_eq_false hPlain hMem s ts
    have hNoKeyword : isKeywordSegment (.leaf (.ident name) s :: ts) = false := by
      simp [isKeywordSegment, hWord "super" (by decide), hWord "self" (by decide),
        hWord "crate" (by decide), hWord "try" (by decide)]
    have hNoSelf := hWord "Self" (by decide)
    refine .bind (Runs.peek hNoKeyword)
      (.bind (Runs.peek hNoSelf) (.bind (Runs.name hPlain s ts) ?_))
    cases h with
    | nil => exact Runs.of_eq fun _ _ => ⟨_, rfl⟩
    | cons => exact Runs.of_eq fun _ _ => ⟨_, rfl⟩
  · obtain ⟨hRaw, hMem⟩ : name.raw = false ∧ name.name ∈ Path.keywords := by simpa using hKeyword
    obtain ⟨word, raw⟩ := name
    obtain rfl : raw = false := hRaw
    simp only [Path.keywords, List.mem_cons, List.not_mem_nil, or_false] at hMem
    rcases hMem with rfl | rfl | rfl | rfl
    · exact Runs.of_eq fun _ _ => ⟨_, rfl⟩
    · cases h with
      | nil => exact Runs.of_eq fun _ _ => ⟨_, rfl⟩
      | cons => exact Runs.of_eq fun _ _ => ⟨_, rfl⟩
    · exact Runs.of_eq fun _ _ => ⟨_, rfl⟩
    · exact Runs.of_eq fun _ _ => ⟨_, rfl⟩

/-- The induction is on the names that are left; each of them is one round. -/
theorem moreSegments_runs {names : List Ident} (hNames : ∀ name ∈ names, Path.isSegment name = true)
    {ts : List Tree} (h : NamesSpelled names ts) (done : List Segment) :
    Runs (g.moreSegments false done) ts (done ++ names.map Segment.plain) [] := by
  refine Runs.repeatFrom fun fuel hFuel => ?_
  induction h generalizing done fuel with
  | nil =>
    obtain ⟨fuel, rfl⟩ := Nat.exists_eq_succ_of_ne_zero (Nat.ne_zero_of_lt hFuel)
    rw [List.map_nil, List.append_nil]
    exact .iterate_stop fuel (Runs.of_eq fun _ _ => ⟨_, rfl⟩)
  | @cons names ts name spacing s₁ s₂ s₃ h ih =>
    obtain ⟨fuel, rfl⟩ := Nat.exists_eq_succ_of_ne_zero (Nat.ne_zero_of_lt hFuel)
    have hSegment := segment_runs g (hNames name List.mem_cons_self) s₃ h
    have hMore := ih (fun next hNext => hNames next (.tail name hNext)) (done ++ [.plain name]) fuel
      (by simp only [List.length_cons] at hFuel; omega)
    rw [List.append_assoc] at hMore
    refine .iterate_again
      (.bind (a := true) (Runs.peek rfl) (.bind (a := false) (Runs.peek rfl) ?_)) hMore
    exact .bind (Runs.of_eq fun _ _ => ⟨_, rfl⟩) (.bind hSegment (.pure _))

/-- A path behind the `::` that may lead it. -/
theorem names_runs (leading : Bool) {name : Ident} {names : List Ident}
    (hNames : ∀ next ∈ name :: names, Path.isSegment next = true) (s : Span) {ts : List Tree}
    (h : NamesSpelled names ts) :
    Runs (do
        let first ← g.segment false
        return Path.mk leading (← g.moreSegments false [first]))
      (.leaf (.ident name) s :: ts) (Path.ofNames leading (name :: names)) [] := by
  have hFirst := segment_runs g (hNames name List.mem_cons_self) s h
  have hMore := moreSegments_runs g (fun next hNext => hNames next (.tail name hNext)) h
    [.plain name]
  exact .bind hFirst (.bind hMore (.pure _))

theorem path_runs {leading : Bool} {names : List Ident}
    (hNames : ∀ name ∈ names, Path.isSegment name = true) {ts : List Tree}
    (h : PathSpelled (leading, names) ts) : Runs (g.path false) ts (.ofNames leading names) [] := by
  cases h with
  | plain name s h =>
    exact .bind (a := false) (Runs.of_eq fun _ _ => ⟨_, rfl⟩) (names_runs g false hNames s h)
  | leading h =>
    cases h with
    | cons name spacing s₁ s₂ s₃ h =>
      exact .bind (a := true) (Runs.of_eq fun _ _ => ⟨_, rfl⟩) (names_runs g true hNames s₃ h)

end Grammar

/-- **However it is written, a path is read as its names.** -/
theorem PathText.ofText_eq_ok {leading : Bool} {names : List Ident} {text : String}
    (h : PathText leading names text.toList)
    (hNames : ∀ name ∈ names, isWritable name = true ∧ Path.isSegment name = true) :
    Path.ofText text = .ok (.ofNames leading names) := by
  obtain ⟨trees, hForest, hCode⟩ :=
    Lexer.forest?_of_lexes (h.lexes fun name hName => (hNames name hName).1)
  obtain ⟨first, more, rfl⟩ := h.exists_cons
  have hRuns := Grammar.path_runs (.deepEnough trees) (fun name hName => (hNames name hName).2)
    (pathSpelled_of_codeOf hCode)
  have hTrees : Path.ofTrees trees = .ok (.ofNames leading (first :: more)) :=
    hRuns.complete default
  rw [Path.ofText, hForest]
  simp only [hTrees]

/-! ## The attribute that names the crate -/

/-- The text of an attribute that names the runtime crate by this literal. -/
def runtimeAttribute (literal : String) : String := "#[spreadable(crate = " ++ literal ++ ")]"

/-- The attribute that is written like that, at any place. -/
structure Attribute.NamesRuntime (attr : Attribute) (literal : String) : Prop where
  path : attr.path = .ofNames false [⟨"spreadable", false⟩]
  args : ∃ content closing, attr.args = .list .parenthesis content closing
    ∧ Tree.codeOf content = [.word "crate", .punct '=', .literal literal]

/-- The tokens of that attribute. -/
def runtimeAttributeCode (literal : String) : Code :=
  [.punct '#', .group .bracket [.word "spreadable",
    .group .parenthesis [.word "crate", .punct '=', .literal literal]]]

theorem toList_runtimeAttribute (literal : String) :
    (runtimeAttribute literal).toList
      = '#' :: '[' :: ("spreadable".toList ++ '(' :: ("crate".toList ++ ' ' :: '=' :: ' '
          :: (literal.toList ++ [')', ']']))) := by
  have hFront : "#[spreadable(crate = ".toList
      = '#' :: '[' :: ("spreadable".toList ++ '(' :: ("crate".toList ++ [' ', '=', ' '])) := by
        decide +kernel
  have hBack : ")]".toList = [')', ']'] := by decide
  unfold runtimeAttribute
  simp only [String.toList_append, hFront, hBack, List.append_assoc, List.cons_append,
    List.nil_append]

/-- The text is taken apart from its end. -/
theorem runtimeAttribute_lexes {literal : String} {value : List Char}
    (h : Text.StringLiteral literal.toList value) :
    Lexes (runtimeAttribute literal).toList (codePieces (runtimeAttributeCode literal)) := by
  have hClose : Lexes [')', ']'] [.close .parenthesis, .close .bracket] :=
    .bracket rfl rfl (.bracket rfl rfl .nil)
  have hLiteral := Lexes.literal_before h (by decide) hClose
  have hEquals := Lexes.sign (c := '=') (by decide) (.blank hLiteral)
  have hCrate := Lexes.word_before "crate" (by decide +kernel) (by decide) (by decide)
    (.blank hEquals)
  have hInside := Lexes.bracket (c := '(') rfl (by simp [Lexer.errorMarker, List.isPrefixOf]) hCrate
  have hName := Lexes.word_before "spreadable" (by decide +kernel) (by decide) (by decide) hInside
  rw [toList_runtimeAttribute]
  exact .sign (by decide) (.bracket rfl rfl hName)

/-- **The attribute is read**, whatever the literal. -/
theorem attributes?_runtimeAttribute {literal : String} {value : List Char}
    (h : Text.StringLiteral literal.toList value) :
    ∃ attr, SourceText.attributes? ⟨runtimeAttribute literal, []⟩ = some [attr]
      ∧ attr.NamesRuntime literal := by
  obtain ⟨trees, hForest, hCode⟩ := Lexer.forest?_of_lexes (runtimeAttribute_lexes h)
  obtain ⟨s₁, ts, rfl, hGroup⟩ := Tree.eq_leaf_of_codeOf hCode
  obtain ⟨inside, opening, closing, ts, rfl, hInside, hNil⟩ := Tree.eq_group_of_codeOf hGroup
  obtain rfl := Tree.eq_nil_of_codeOf hNil
  obtain ⟨s₂, ts, rfl, hArgs⟩ := Tree.eq_leaf_of_codeOf hInside
  obtain ⟨content, opening', closing', ts, rfl, hContent, hNil⟩ := Tree.eq_group_of_codeOf hArgs
  obtain rfl := Tree.eq_nil_of_codeOf hNil
  obtain ⟨s₃, ts, rfl, hEquals⟩ := Tree.eq_leaf_of_codeOf hContent
  obtain ⟨s₄, ts, rfl, hLiteral⟩ := Tree.eq_leaf_of_codeOf hEquals
  obtain ⟨s₅, ts, rfl, hNil⟩ := Tree.eq_leaf_of_codeOf hLiteral
  obtain rfl := Tree.eq_nil_of_codeOf hNil
  have hRead : SourceText.attributes? ⟨runtimeAttribute literal, []⟩
      = some [⟨.ofNames false [⟨"spreadable", false⟩],
          Reader.coverOf [.leaf (.ident ⟨"spreadable", false⟩) s₂],
          .list .parenthesis [.leaf (.ident ⟨"crate", false⟩) s₃, .leaf (.punct '=' .alone) s₄,
            .leaf (.literal literal) s₅] closing'⟩] := by
    rw [SourceText.attributes?, SourceText.read?, SourceText.trees?, hForest]
    rfl
  exact ⟨_, hRead, rfl, _, _, rfl, hContent⟩

namespace Settings

variable {attr : Attribute} {literal : String} {path : Path}

/-- The literal names this path: whatever was set before, an attribute with it sets the path. -/
def Names (literal : String) (path : Path) : Prop :=
  ∀ attr : Attribute, attr.NamesRuntime literal →
    ∀ settings, readAttribute settings attr = .ok ⟨some path⟩

theorem names_of_pathText {leading : Bool} {names : List Ident} {text : String}
    (hNames : ∀ name ∈ names, isWritable name = true ∧ Path.isSegment name = true)
    (hText : PathText leading names text.toList)
    (hLiteral : Text.StringLiteral literal.toList text.toList) :
    Names literal (.ofNames leading names) := by
  rintro attr ⟨-, content, closing, hArgs, hContent⟩ settings
  obtain ⟨s₁, ts, rfl, hEquals⟩ := Tree.eq_leaf_of_codeOf hContent
  obtain ⟨s₂, ts, rfl, hValue⟩ := Tree.eq_leaf_of_codeOf hEquals
  obtain ⟨s₃, ts, rfl, hNil⟩ := Tree.eq_leaf_of_codeOf hValue
  obtain rfl := Tree.eq_nil_of_codeOf hNil
  have hPath : Path.ofText (String.ofList text.toList) = .ok (.ofNames leading names) := by
    rw [String.ofList_toList]
    exact hText.ofText_eq_ok hNames
  have hItem : Item.Heads (.runtime (.ofNames leading names))
      [.leaf (.ident ⟨"crate", false⟩) s₁, .leaf (.punct '=' .alone) s₂,
        .leaf (.literal literal) s₃] [] :=
    .runtime (.runtime .alone s₁ s₂ s₃ hLiteral.stringValue?_eq hPath)
      (.cons rfl (.cons rfl (.cons rfl (.nil _))))
  exact readAttribute_of_readsAs ⟨.parenthesis, _, closing, hArgs, .last hItem⟩ settings

theorem isNamed_of_namesRuntime (h : attr.NamesRuntime literal) :
    attr.isNamed attributeName = true := by
  rw [Attribute.isNamed, h.path]
  rfl

/-- Of the attributes that carry settings, the last one decides; those before it still have to be
read. -/
theorem ofAttributes_eq_ok_iff (hNames : Names literal path) (hAttr : attr.NamesRuntime literal)
    (front : List Attribute) {back : List Attribute}
    (hBack : ∀ other ∈ back, other.isNamed attributeName = false) {settings : Settings} :
    ofAttributes (front ++ attr :: back) = .ok settings
      ↔ settings = ⟨some path⟩ ∧ ∃ before, ofAttributes (front ++ back) = .ok before := by
  have hNone : back.filter (·.isNamed attributeName) = [] :=
    List.filter_eq_nil_iff.mpr fun other hOther => Bool.eq_false_iff.mp (hBack other hOther)
  have hWith : (front ++ attr :: back).filter (·.isNamed attributeName)
      = front.filter (·.isNamed attributeName) ++ [attr] := by
    rw [List.filter_append, List.filter_cons, if_pos (isNamed_of_namesRuntime hAttr), hNone]
  have hWithout : (front ++ back).filter (·.isNamed attributeName)
      = front.filter (·.isNamed attributeName) := by
    rw [List.filter_append, hNone, List.append_nil]
  rw [ofAttributes, ofAttributes, hWith, hWithout, List.foldlM_append]
  cases (front.filter (·.isNamed attributeName)).foldlM readAttribute {} with
  | error fault =>
    constructor
    · intro h
      cases h
    · rintro ⟨-, before, h⟩
      cases h
  | ok before =>
    have hLast : [attr].foldlM readAttribute before = .ok ⟨some path⟩ := by
      rw [List.foldlM_cons, hNames attr hAttr before]
      rfl
    show [attr].foldlM readAttribute before = .ok settings ↔ _
    rw [hLast]
    constructor
    · rintro ⟨⟩
      exact ⟨rfl, before, rfl⟩
    · rintro ⟨rfl, -⟩
      rfl

theorem Names.ofAttributes_eq (hNames : Names literal path) (hAttr : attr.NamesRuntime literal) :
    ofAttributes [attr] = .ok ⟨some path⟩ :=
  (ofAttributes_eq_ok_iff hNames hAttr [] fun _ hOther => absurd hOther List.not_mem_nil).mpr
    ⟨rfl, _, rfl⟩

end Settings

namespace Declaration

variable {d : Declaration} {attr : Attribute} {literal : String} {path : Path}
  {front back : List Attribute}

theorem IsMergeable.withAttributes {attributes : List Attribute} (h : d.IsMergeable)
    (hReadable : ∃ settings, Settings.ofAttributes attributes = .ok settings) :
    ({ d with attributes := attributes } : Declaration).IsMergeable :=
  ⟨h.isRecord, hReadable, h.shapes, h.labels⟩

/-- **Naming the crate is no reason to reject a record.** -/
theorem accepted_iff_without (hNames : Settings.Names literal path)
    (hAttr : attr.NamesRuntime literal)
    (hBack : ∀ other ∈ back, other.isNamed Settings.attributeName = false)
    (hAttributes : d.attributes = front ++ attr :: back) :
    (∃ i, d.implementation = .ok i)
      ↔ ∃ j, ({ d with attributes := front ++ back } : Declaration).implementation = .ok j := by
  constructor
  · rintro ⟨i, accepted⟩
    have hMergeable := (implementation_eq_ok_iff.mp accepted).1
    obtain ⟨settings, hSettings⟩ := hMergeable.isReadable
    rw [hAttributes, Settings.ofAttributes_eq_ok_iff hNames hAttr front hBack] at hSettings
    exact ⟨_, implementation_eq_ok_iff.mpr ⟨hMergeable.withAttributes hSettings.2, rfl⟩⟩
  · rintro ⟨j, accepted⟩
    have hMergeable := (implementation_eq_ok_iff.mp accepted).1
    have hReadable := (Settings.ofAttributes_eq_ok_iff hNames hAttr front hBack).mpr
      ⟨rfl, hMergeable.isReadable⟩
    rw [← hAttributes] at hReadable
    exact ⟨_, implementation_eq_ok_iff.mpr ⟨hMergeable.withAttributes ⟨_, hReadable⟩, rfl⟩⟩

/-- The crate of an accepted record is the one that is named last. -/
theorem runtime?_of_named (h : d.IsMergeable) (hNames : Settings.Names literal path)
    (hAttr : attr.NamesRuntime literal)
    (hBack : ∀ other ∈ back, other.isNamed Settings.attributeName = false)
    (hAttributes : d.attributes = front ++ attr :: back) : d.runtime? = some path := by
  obtain ⟨settings, hSettings⟩ := h.isReadable
  have hPath := hSettings
  rw [hAttributes, Settings.ofAttributes_eq_ok_iff hNames hAttr front hBack] at hPath
  rw [runtime?, hSettings, hPath.1]

end Declaration

/-- **A path that names the crate is rendered faithfully.**  Let a path of plain names be written
with any gaps between its tokens, and let a literal stand for that text.
    (1) The attribute with the literal is read.
    (2) The setting it makes is this path, and it is rendered as its names in order, joined by
        ` :: `, with `:: ` in front where a `::` leads.
    (3) As the last attribute with settings it is no reason to reject a record.  Where the record is
        accepted, all of the derived code is the record's own implementation and that of the trait,
        and the header of the second names the path and ` :: Spread` behind it.
    (4) By any literal that stands for the rendered text, the path is rendered the same. -/
theorem runtime_path_rendered_faithfully {leading : Bool} {names : List Ident}
    {text literal : String}
    (hNames : ∀ name ∈ names, isWritable name = true ∧ Path.isSegment name = true)
    (hText : PathText leading names text.toList)
    (hLiteral : Text.StringLiteral literal.toList text.toList) :
    let rendered := (if leading then ":: " else "") ++ " :: ".intercalate (names.map Ident.text)
    (∃ attr, SourceText.attributes? ⟨runtimeAttribute literal, []⟩ = some [attr]
      ∧ attr.NamesRuntime literal)
      ∧ (∀ attr : Attribute, attr.NamesRuntime literal →
          (∃ settings, Settings.ofAttributes [attr] = .ok settings
            ∧ settings.runtime = some (.ofNames leading names)
            ∧ settings.runtimeCode.text = rendered)
          ∧ ∀ (d : Declaration) (front back : List Attribute),
              d.attributes = front ++ attr :: back →
              (∀ other ∈ back, other.isNamed Settings.attributeName = false) →
              ((∃ i, d.implementation = .ok i)
                  ↔ ∃ j, ({ d with attributes := front ++ back } : Declaration).implementation
                    = .ok j)
              ∧ ∀ i, d.implementation = .ok i → ∃ trait forwarding : Code,
                  i.code.Splits i.inherentCode i.traitCode
                    ∧ i.traitCode = Operation.attributeCode [.word "automatically_derived"]
                      ++ .word "impl" :: d.generics.binders ++ trait
                      ++ .word "for" :: .ident d.name :: d.generics.arguments
                      ++ d.generics.conditionsCode ++ [.group .brace forwarding]
                    ∧ trait.text = rendered ++ " :: Spread")
      ∧ ∀ again : String, Text.StringLiteral again.toList rendered.toList →
          ∃ attr settings, SourceText.attributes? ⟨runtimeAttribute again, []⟩ = some [attr]
            ∧ Settings.ofAttributes [attr] = .ok settings
            ∧ settings.runtimeCode.text = rendered := by
  intro rendered
  obtain ⟨first, more, rfl⟩ := hText.exists_cons
  have hRendered : (Path.ofNames leading (first :: more)).code.text = rendered :=
    Path.text_code leading first more
  have hNamed := Settings.names_of_pathText hNames hText hLiteral
  refine ⟨attributes?_runtimeAttribute hLiteral,
    fun attr hAttr => ⟨⟨_, hNamed.ofAttributes_eq hAttr, rfl, hRendered⟩, ?_⟩, ?_⟩
  · intro d front back hAttributes hBack
    refine ⟨Declaration.accepted_iff_without hNamed hAttr hBack hAttributes, fun i accepted => ?_⟩
    obtain ⟨hMergeable, rfl⟩ := Declaration.implementation_eq_ok_iff.mp accepted
    have hRuntime := Declaration.runtime?_of_named hMergeable hNamed hAttr hBack hAttributes
    refine ⟨
      (Path.ofNames leading (first :: more)).code ++ Token.sign [':', ':'] ++ [.word "Spread"],
      Implementation.forward d.derived.merging ++ Implementation.forward d.derived.mergingInPlace,
      d.derived.code_splits, ?_, Path.text_code_concat leading first more ⟨"Spread", false⟩⟩
    simp [Implementation.traitCode, Implementation.header, Declaration.derived,
      Settings.runtimeCode, hRuntime]
  · intro again hAgain
    have hNamed := Settings.names_of_pathText hNames (pathText_joined leading first more) hAgain
    obtain ⟨attr, hRead, hAttr⟩ := attributes?_runtimeAttribute hAgain
    exact ⟨attr, _, hRead, hNamed.ofAttributes_eq hAttr, hRendered⟩

/-- The path `::r#fn::Self::a`, written with a nested comment, comments up to the end of the line,
and blanks. -/
theorem pathText_commented :
    PathText true [⟨"fn", true⟩, ⟨"Self", false⟩, ⟨"a", false⟩]
      "/*/**/*/::r#fn //y\n:: Self::a//z".toList := by
  have hBlock : Gap ('/' :: '*' :: ('/' :: '*' :: ['*', '/'] ++ ['*', '/']) ++ []) :=
    .block (.nested .close .close) rfl .nil
  have hLine : Gap (' ' :: ('/' :: '/' :: ['y'] ++ '\n' :: [])) :=
    .blank (by decide) (.line (by decide) rfl .nil)
  have hBack : LastGap ([] ++ '/' :: '/' :: ['z']) := .line .nil (by decide) rfl
  have hPath : PathText true [⟨"fn", true⟩, ⟨"Self", false⟩, ⟨"a", false⟩] _ :=
    .leading (.cons hBlock .nil (.cons hLine Gap.space (.cons .nil .nil .nil))) hBack
  exact Eq.subst (motive := PathText true _) (by decide +kernel) hPath

/-- The comments are dropped, and the rest is rendered with one blank around each sign. -/
theorem runtime_path_rendered_faithfully_when_commented :
    let literal := "r##\"/*/**/*/::r#fn //y\n:: Self::a//z\"##"
    ∃ (attr : Attribute) (i : Implementation) (trait forwarding : Code),
      SourceText.attributes? ⟨runtimeAttribute literal, []⟩ = some [attr]
        ∧ (Declaration.ofParts [attr] (.record [])).implementation = .ok i
        ∧ i.traitCode = Operation.attributeCode [.word "automatically_derived"]
            ++ .word "impl" :: trait ++ [.word "for", .word "R", .group .brace forwarding]
        ∧ trait.text = ":: r#fn :: Self :: a :: Spread" := by
  intro literal
  have hContent : Text.RawContent 2 "/*/**/*/::r#fn //y\n:: Self::a//z".toList :=
    ⟨by decide +kernel, by decide +kernel⟩
  have hLiteral : Text.StringLiteral literal.toList _ :=
    Eq.subst (motive := fun cs => Text.StringLiteral cs _) (by decide +kernel)
      (.raw (by decide) hContent)
  obtain ⟨⟨attr, hRead, hAttr⟩, hUses, -⟩ :=
    runtime_path_rendered_faithfully (by decide +kernel) pathText_commented hLiteral
  obtain ⟨hAccepted, hHeader⟩ := (hUses attr hAttr).2 (.ofParts [attr] (.record [])) [] [] rfl nofun
  obtain ⟨i, accepted⟩ := hAccepted.mpr ⟨_, rfl⟩
  obtain ⟨trait, forwarding, -, hCode, hText⟩ := hHeader i accepted
  rw [List.append_assoc, List.append_assoc] at hCode
  exact ⟨attr, i, trait, forwarding, hRead, accepted, hCode, hText.trans (by decide +kernel)⟩

end Overlay
