import Overlay.Proofs.DerivedMerge

/-!
The record literal that both methods of a derived record are built around.

1. **Data**: a declaration that is accepted.  Its optional fields and its markers are extracted,
   each in the order of declaration; all its fields are one or the other.
2. **Code**: the body of a method holds a literal `Self { … }` (`Code.recordLiterals`).  What stands
   in its braces is looked at as tokens, with no regard to what it was printed from: it is cut at
   its commas (`Code.parts`), and an entry begins with its label (`Code.label?`).
3. **What is found there**: the entries are those of the optional fields and then those of the
   markers, spelled token by token in `mergedTokens` and `markerTokens`; between two of them stands
   one comma, and no other comma anywhere (`separated_eq_intercalate`,
   `Entry.parts_separated_code`).  Nothing is lost and nothing comes twice, since the two kinds of
   fields partition all of them (`names_perm`).
-/

namespace Overlay

/-! ## Literals in code -/

namespace Code

/-- What stands in the braces of the record literals at the top of code, one after the other. -/
def recordLiterals : Code → List Code
  | .word "Self" :: .group .brace content :: rest => content :: recordLiterals rest
  | _ :: rest => recordLiterals rest
  | [] => []

/-- The label that an entry of a record literal begins with. -/
def label? : Code → Option Ident
  | .atom (.ident label) :: .punct ':' :: _ => some label
  | _ => none

/-- A list without a comma at its end has one comma between its items and no more. -/
theorem separated_eq_intercalate (separator : Token) (items : List Code) :
    separated separator false items = [separator].intercalate items := by
  induction items with
  | nil => rfl
  | cons item items ih =>
    cases items with
    | nil => rw [List.intercalate_singleton]; rfl
    | cons next rest =>
      rw [separated, ih, List.intercalate_cons_cons, List.append_assoc]
      rfl

end Code

namespace Entry

/-- The tokens of `f: from.f.take().or(self.f.take())`. -/
def mergedTokens (f : Ident) : Code :=
  [.ident f, .punct ':', .word "from", .punct '.', .ident f, .punct '.', .word "take",
    .group .parenthesis [], .punct '.', .word "or",
    .group .parenthesis [.word "self", .punct '.', .ident f, .punct '.', .word "take",
      .group .parenthesis []]]

/-- The tokens of `f: ::core::marker::PhantomData`. -/
def markerTokens (f : Ident) : Code :=
  .ident f :: .punct ':' :: Token.sign [':', ':'] ++ .word "core" :: Token.sign [':', ':']
    ++ .word "marker" :: Token.sign [':', ':'] ++ [.word "PhantomData"]

theorem text_mergedTokens (f : Ident) :
    (mergedTokens f).text
      = f.text ++ " : from . " ++ f.text ++ " . take () . or (self . " ++ f.text
        ++ " . take ())" := by
  apply String.toList_injective
  simp [mergedTokens, Code.text, Token.charsOf, Token.chars, Token.gluesRight, Token.ident,
    Token.punct, Token.word, Atom.text, Ident.text, Delimiter.opening, Delimiter.closing]

theorem text_markerTokens (f : Ident) :
    (markerTokens f).text = f.text ++ " : :: core :: marker :: PhantomData" := by
  apply String.toList_injective
  simp [markerTokens, Code.text, Token.charsOf, Token.chars, Token.gluesRight, Token.sign,
    Token.ident, Token.punct, Token.word, Atom.text, Ident.text]

end Entry

namespace FieldNames

/-- What stands in the braces of the record literal. -/
def literalContent (m : FieldNames) : Code :=
  Code.separated (.punct ',') false (m.entries.map Entry.code)

/-- **The literal is cut into the entries of the fields and of the markers.** -/
theorem parts_literalContent (m : FieldNames) :
    m.literalContent.parts = m.fields.map Entry.mergedTokens
      ++ m.markers.map Entry.markerTokens := by
  rw [literalContent, Entry.parts_separated_code, entries, List.map_append, List.map_map,
    List.map_map]
  rfl

/-- One comma stands between two entries. -/
theorem literalContent_eq_intercalate (m : FieldNames) :
    m.literalContent = [.punct ','].intercalate m.literalContent.parts := by
  rw [literalContent, Entry.parts_separated_code]
  exact Code.separated_eq_intercalate _ _

theorem recordLiterals_merging (visibility : Visibility) (m : FieldNames) :
    (Operation.merging visibility m).bodyCode.recordLiterals = [m.literalContent] := by
  show Code.recordLiterals ((m.bodyWith (.result m.entries)).flatMap Statement.code) = _
  unfold bodyWith
  cases m.takes <;> rfl

theorem recordLiterals_mergingInPlace (visibility : Visibility) (m : FieldNames) :
    (Operation.mergingInPlace visibility m).bodyCode.recordLiterals = [m.literalContent] := by
  show Code.recordLiterals ((m.bodyWith (.assign m.entries)).flatMap Statement.code) = _
  unfold bodyWith
  cases m.takes <;> rfl

end FieldNames

/-! ## Names of declared fields -/

namespace Declaration

variable {d : Declaration}

/-- The names of the markers, in the order of declaration. -/
def markerNames (d : Declaration) : List Ident :=
  (d.fields.filter fun f => Shape.of f.ty = .marker).map (·.name)

/-- **Fields that are optional and markers make up all fields**, where no field is required. -/
theorem names_perm (h : ∀ f ∈ d.fields, Shape.of f.ty ≠ .required) :
    (d.optionalNames ++ d.markerNames).Perm (d.fields.map (·.name)) := by
  have hMarkers : (d.fields.filter fun f => Shape.of f.ty = .marker)
      = d.fields.filter fun f => !decide (Shape.of f.ty = .optional) := by
    refine List.filter_congr fun f hf => ?_
    rcases (Shape.ne_required_iff _).mp (h f hf) with hShape | hShape <;> rw [hShape] <;> rfl
  rw [optionalNames, markerNames, hMarkers, ← List.map_append]
  exact (List.filter_append_perm _ d.fields).map _

/-- What is extracted from an accepted declaration, and where it goes. -/
theorem extracted_of_implementation_eq_ok {i : Implementation}
    (accepted : d.implementation = .ok i) :
    ∃ record, Record.ofDeclaration d = .ok record
      ∧ record.fieldNames = .ok ⟨d.optionalNames, d.markerNames⟩
      ∧ (∀ f ∈ d.fields, Shape.of f.ty ≠ .required)
      ∧ i.merging = .merging d.visibility ⟨d.optionalNames, d.markerNames⟩
      ∧ i.mergingInPlace = .mergingInPlace d.visibility ⟨d.optionalNames, d.markerNames⟩ := by
  obtain ⟨fields, settings, hBody, hSettings, hShapes, hImplement⟩ :=
    stages_of_implementation_eq_ok accepted
  have hFields : d.fields = fields := by rw [Declaration.fields, hBody]
  have hNames : FieldNames.ofMembers (fields.map Member.ofField)
      = ⟨d.optionalNames, d.markerNames⟩ := by
    rw [optionalNames, markerNames, hFields, FieldNames.ofMembers, List.filter_map, List.filter_map,
      List.map_map, List.map_map]
    rfl
  have hRecord : Record.ofDeclaration d = .ok (d.recordWith fields settings) := by
    rw [Record.ofDeclaration, hBody]
    simp only [hSettings]
    rfl
  have hMembers : ∀ member ∈ fields.map Member.ofField, member.shape ≠ .required := by
    intro member hMember
    obtain ⟨f, hf, rfl⟩ := List.mem_map.mp hMember
    exact hShapes f hf
  have hExtracted := Record.fieldNamesFrom_of_mergeable d.name (fields.map Member.ofField) hMembers
  rw [hNames] at hExtracted hImplement
  have hi := Record.implement_eq_ok hImplement
  exact ⟨_, hRecord, hExtracted, hFields ▸ hShapes, by rw [hi]; rfl, by rw [hi]; rfl⟩

end Declaration

/-! ## The literal of an accepted declaration -/

/-- **The record literal mentions every field once**, in order and well separated.  For an accepted
    declaration, all of whose derived code is the record's own implementation and that of the trait,
    there is one `content` such that
    (1) each of the two methods that are found in the first has one record literal, and `content`
        stands in its braces;
    (2) cut at its commas, it gives the entries of the optional fields and then those of the
        markers, each kind in the order of declaration and spelled in these tokens, the name as it
        was declared; it is these entries with one comma between any two that follow each other;
    (3) the labels of the entries are the names of the declared fields, each as often as it was
        declared: once, if the fields have different names;
    (4) read back, the entries are those of the fields and markers that were extracted. -/
theorem record_literal_mentions_all {d : Declaration} {i : Implementation}
    (accepted : d.implementation = .ok i) :
    i.code.Splits i.inherentCode i.traitCode ∧ ∃ content : Code,
      (i.inherentCode.methods.map fun method => (method.name, method.body.recordLiterals))
          = [(mergeName, [content]), (mergeInPlaceName, [content])]
      ∧ content.parts = d.optionalNames.map Entry.mergedTokens
        ++ d.markerNames.map Entry.markerTokens
      ∧ (content.parts.map Code.text
          = (d.optionalNames.map fun f =>
            f.text ++ " : from . " ++ f.text ++ " . take () . or (self . "
              ++ f.text ++ " . take ())")
            ++ d.markerNames.map fun f => f.text ++ " : :: core :: marker :: PhantomData")
      ∧ content = [.punct ','].intercalate content.parts
      ∧ content.parts.map Code.label? = (d.optionalNames ++ d.markerNames).map some
      ∧ (d.optionalNames ++ d.markerNames).Perm (d.fields.map (·.name))
      ∧ (d.NamesDistinct → (d.optionalNames ++ d.markerNames).Nodup)
      ∧ ∃ record m, Record.ofDeclaration d = .ok record ∧ record.fieldNames = .ok m
          ∧ m.fields = d.optionalNames ∧ m.markers = d.markerNames
          ∧ Entry.readAll? content
            = some (m.fields.map Entry.merged ++ m.markers.map Entry.marker) := by
  obtain ⟨record, hRecord, hExtracted, hShapes, hMerge, hInPlace⟩ :=
    Declaration.extracted_of_implementation_eq_ok accepted
  have hPerm := Declaration.names_perm hShapes
  have hParts := FieldNames.parts_literalContent ⟨d.optionalNames, d.markerNames⟩
  refine ⟨i.code_splits, FieldNames.literalContent ⟨d.optionalNames, d.markerNames⟩, ?_, hParts, ?_,
    FieldNames.literalContent_eq_intercalate _, ?_, hPerm, fun hDistinct => ?_,
    record, _, hRecord, hExtracted, rfl, rfl, Entry.readAll?_separated _⟩
  · rw [Implementation.methods_inherentCode, hMerge, hInPlace, List.map_cons, List.map_cons,
      List.map_nil]
    simp only [MethodCode.ofOperation, FieldNames.recordLiterals_merging,
      FieldNames.recordLiterals_mergingInPlace]
    rfl
  · rw [hParts, List.map_append, List.map_map, List.map_map]
    congr 1
    · exact List.map_congr_left fun f _ => Entry.text_mergedTokens f
    · exact List.map_congr_left fun f _ => Entry.text_markerTokens f
  · rw [hParts, List.map_append, List.map_map, List.map_map, List.map_append]
    rfl
  · have hNames : (d.fields.map (·.name)).Nodup := by
      apply List.Nodup.of_map Ident.name
      rw [List.map_map]
      exact hDistinct
    exact hPerm.nodup_iff.mpr hNames

/-- A record with a marker in front of and between its optional fields, one of them raw: the markers
go to the end of the literal. -/
theorem record_literal_mentions_all_of_mixed :
    let option : Ty :=
      .path (.mk false [.mk ⟨"Option", false⟩ (.angled false [.type .infer] false)])
    let phantom : Ty := .path (.ofNames false [⟨"PhantomData", false⟩])
    let field := fun name ty => (⟨[], .inherited, name, ty, default⟩ : Field)
    let d := Declaration.ofParts []
      (.record [field ⟨"p", false⟩ phantom, field ⟨"type", true⟩ option, field ⟨"q", false⟩ phantom,
        field ⟨"from", false⟩ option])
    ∃ i content, d.implementation = .ok i
      ∧ i.mergingInPlace.bodyCode.recordLiterals = [content]
      ∧ content.parts.map Code.text
        = ["r#type : from . r#type . take () . or (self . r#type . take ())",
          "from : from . from . take () . or (self . from . take ())",
          "p : :: core :: marker :: PhantomData", "q : :: core :: marker :: PhantomData"]
      ∧ content.parts.map Code.label?
        = [some ⟨"type", true⟩, some ⟨"from", false⟩, some ⟨"p", false⟩, some ⟨"q", false⟩] := by
  intro option phantom field d
  obtain ⟨-, content, hMethods, -, hText, -, hLabels, -⟩ := record_literal_mentions_all (d := d) rfl
  rw [Implementation.methods_inherentCode] at hMethods
  obtain ⟨-, hInPlace⟩ := List.cons.inj hMethods
  have hLiterals := (Prod.mk.inj (List.cons.inj hInPlace).1).2
  exact ⟨_, content, rfl, hLiterals, hText, hLabels⟩

end Overlay
