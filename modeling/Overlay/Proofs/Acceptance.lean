import Overlay.Derive.Implementation
import Overlay.Proofs.DeclaredNames

/-!
What becomes of a declaration.

Deriving goes through four stages, each with a failure of its own: the kind of declaration, its
settings, its fields one after the other, and the record literal that has to mention every field.  A
declaration may break several rules at once.  This file says which of them is reported:

* the first stage that fails, whatever the later ones would say (`implementation_of_other`,
  `implementation_of_fault`);
* among the fields, the first required one in the order of declaration
  (`fieldNamesFrom_of_required`), by an induction over the fields in front of it;
* and if nothing is rejected, the names of the optional fields and of the markers, each in the order
  of declaration, reach the record literal (`fieldNamesFrom_of_mergeable`,
  `implementation_of_mergeable`).

The stages are disjoint and cover all declarations, so that these four facts decide every question
about the outcome; `implementation_outcome` collects them.  The kind that is reported is the kind
that was declared: its keyword stands where the report points (`SourceText.declaration?_keyword`).
-/

namespace Overlay

/-! ## Sorting the members -/

theorem Shape.ne_required_iff (shape : Shape) :
    shape ≠ .required ↔ shape = .optional ∨ shape = .marker := by
  cases shape <;> simp

namespace FieldNames

/-- The names of members, by their shapes. -/
def ofMembers (members : List Member) : FieldNames where
  fields := (members.filter (·.shape = .optional)).map (·.name)
  markers := (members.filter (·.shape = .marker)).map (·.name)

end FieldNames

namespace Record

/-- **Members without a required one are all sorted by shape.** -/
theorem fieldNamesFrom_of_mergeable (record : Ident) (members : List Member)
    (h : ∀ m ∈ members, m.shape ≠ .required) :
    fieldNamesFrom record members = .ok (.ofMembers members) := by
  induction members with
  | nil => rfl
  | cons m rest ih =>
    have hRest := ih fun x hx => h x (List.mem_cons_of_mem m hx)
    rw [fieldNamesFrom]
    cases hm : m.shape with
    | required => exact absurd hm (h m List.mem_cons_self)
    | optional => simp [hRest, Except.map, FieldNames.ofMembers, hm]
    | marker => simp [hRest, Except.map, FieldNames.ofMembers, hm]

/-- **The first required member is reported**, and nothing behind it is looked at. -/
theorem fieldNamesFrom_of_required (record : Ident) (before : List Member) (m : Member)
    (after : List Member) (hBefore : ∀ x ∈ before, x.shape ≠ .required) (hm : m.shape = .required) :
    fieldNamesFrom record (before ++ m :: after)
      = .error (.notOptional record m.name m.ty m.span) := by
  induction before with
  | nil => simp [fieldNamesFrom, hm]
  | cons x before ih =>
    have hRest := ih fun y hy => hBefore y (List.mem_cons_of_mem x hy)
    rw [List.cons_append, fieldNamesFrom]
    cases hx : x.shape with
    | required => exact absurd hx (hBefore x List.mem_cons_self)
    | optional => rw [hRest]; rfl
    | marker => rw [hRest]; rfl

/-- Whether or not a record literal can be written, no declaration is rejected any more. -/
theorem implement_ne_rejected (r : Record) (m : FieldNames) (e : DeriveError) :
    r.implement m ≠ .error (.rejected e) := by
  unfold implement
  split <;> simp

/-- What is implemented, where every name can be mentioned. -/
theorem implement_eq_ok {r : Record} {m : FieldNames} {i : Implementation}
    (h : r.implement m = .ok i) :
    i = ⟨r.name, r.generics, r.settings.runtimeCode, .merging r.visibility m,
      .mergingInPlace r.visibility m⟩ := by
  unfold implement at h
  split at h
  · nomatch h
  · injection h with h
    exact h.symm

end Record

/-! ## The outcome of each stage -/

namespace Declaration

variable {d : Declaration}

/-- The record of a declaration whose settings are readable. -/
def recordWith (d : Declaration) (fields : List Field) (settings : Settings) : Record :=
  ⟨d.name, d.visibility, d.generics, fields.map Member.ofField, settings⟩

/-- A declaration without named fields is rejected for its kind. -/
theorem implementation_of_other {kind : OtherKind} (h : d.body = .other kind) :
    d.implementation = .error (.rejected (.wrongKind d.name kind d.keyword)) := by
  unfold implementation Record.ofDeclaration
  rw [h]
  rfl

/-- A record with malformed settings is rejected for them. -/
theorem implementation_of_fault {fields : List Field} {fault : Fault} (h : d.body = .record fields)
    (hs : Settings.ofAttributes d.attributes = .error fault) :
    d.implementation = .error (.rejected (.invalidAttribute fault)) := by
  unfold implementation Record.ofDeclaration
  rw [h]
  simp only [hs]
  rfl

/-- With readable settings, everything depends on the fields. -/
theorem implementation_of_settings {fields : List Field} {settings : Settings}
    (h : d.body = .record fields) (hs : Settings.ofAttributes d.attributes = .ok settings) :
    d.implementation
      = ((d.recordWith fields settings).fieldNames.mapError .rejected).bind
          (d.recordWith fields settings).implement := by
  unfold implementation Record.ofDeclaration
  rw [h]
  simp only [hs]
  rfl

/-- A record with a required field is rejected for the first such field. -/
theorem implementation_of_required {before : List Field} {f : Field} {after : List Field}
    {settings : Settings} (h : d.body = .record (before ++ f :: after))
    (hs : Settings.ofAttributes d.attributes = .ok settings)
    (hBefore : ∀ g ∈ before, Shape.of g.ty ≠ .required) (hf : Shape.of f.ty = .required) :
    d.implementation = .error (.rejected (.notOptional d.name f.name f.ty f.span)) := by
  have hFirst := Record.fieldNamesFrom_of_required d.name (before.map Member.ofField)
    (Member.ofField f) (after.map Member.ofField)
    (by
      intro x hx
      obtain ⟨g, hg, rfl⟩ := List.mem_map.mp hx
      exact hBefore g hg) hf
  have hNames : (d.recordWith (before ++ f :: after) settings).fieldNames
      = .error (.notOptional d.name f.name f.ty f.span) := by
    rw [Record.fieldNames, recordWith, List.map_append, List.map_cons]
    exact hFirst
  rw [implementation_of_settings h hs, hNames]
  rfl

/-- A record whose fields are all optional or markers goes on to its implementation. -/
theorem implementation_of_mergeable {fields : List Field} {settings : Settings}
    (h : d.body = .record fields) (hs : Settings.ofAttributes d.attributes = .ok settings)
    (hf : ∀ f ∈ fields, Shape.of f.ty ≠ .required) :
    d.implementation = (d.recordWith fields settings).implement
      (.ofMembers (fields.map Member.ofField)) := by
  have hNames : (d.recordWith fields settings).fieldNames
      = .ok (.ofMembers (fields.map Member.ofField)) := by
    apply Record.fieldNamesFrom_of_mergeable
    intro x hx
    obtain ⟨f, hf', rfl⟩ := List.mem_map.mp hx
    exact hf f hf'
  rw [implementation_of_settings h hs, hNames]
  rfl

/-- A list of fields either is without required ones, or has a first one. -/
theorem mergeable_or_first_required (fields : List Field) :
    (∀ f ∈ fields, Shape.of f.ty ≠ .required) ∨
      ∃ before f after, fields = before ++ f :: after ∧ (∀ g ∈ before, Shape.of g.ty ≠ .required)
        ∧ Shape.of f.ty = .required := by
  induction fields with
  | nil => exact Or.inl (fun f hf => nomatch hf)
  | cons f rest ih =>
    by_cases hf : Shape.of f.ty = .required
    · exact Or.inr ⟨[], f, rest, rfl, fun g hg => (nomatch hg), hf⟩
    · rcases ih with hAll | ⟨before, g, after, rfl, hBefore, hg⟩
      · refine Or.inl fun x hx => ?_
        rcases List.mem_cons.mp hx with rfl | hx
        · exact hf
        · exact hAll x hx
      · refine Or.inr ⟨f :: before, g, after, rfl, fun x hx => ?_, hg⟩
        rcases List.mem_cons.mp hx with rfl | hx
        · exact hf
        · exact hBefore x hx

/-- A record is not rejected exactly when no stage before the record literal fails. -/
theorem implementation_ne_rejected_iff (d : Declaration) :
    (∀ e, d.implementation ≠ .error (.rejected e)) ↔
      ∃ fields settings, d.body = .record fields
        ∧ Settings.ofAttributes d.attributes = .ok settings
        ∧ ∀ f ∈ fields, Shape.of f.ty = .optional ∨ Shape.of f.ty = .marker := by
  constructor
  · intro h
    cases hBody : d.body with
    | other kind => exact absurd (implementation_of_other hBody) (h _)
    | record fields =>
      cases hs : Settings.ofAttributes d.attributes with
      | error fault => exact absurd (implementation_of_fault hBody hs) (h _)
      | ok settings =>
        refine ⟨fields, settings, rfl, rfl, fun f hf => ?_⟩
        rcases mergeable_or_first_required fields with hAll | ⟨before, g, after, rfl, hBefore, hg⟩
        · exact (Shape.ne_required_iff _).mp (hAll f hf)
        · exact absurd (implementation_of_required hBody hs hBefore hg) (h _)
  · rintro ⟨fields, settings, hBody, hs, hFields⟩ e
    have hMergeable : ∀ f ∈ fields, Shape.of f.ty ≠ .required :=
      fun f hf => (Shape.ne_required_iff _).mpr (hFields f hf)
    rw [implementation_of_mergeable hBody hs hMergeable]
    exact Record.implement_ne_rejected _ _ e

/-- An accepted declaration has passed every stage. -/
theorem stages_of_implementation_eq_ok {i : Implementation} (accepted : d.implementation = .ok i) :
    ∃ fields settings, d.body = .record fields ∧ Settings.ofAttributes d.attributes = .ok settings
      ∧ (∀ f ∈ fields, Shape.of f.ty ≠ .required)
      ∧ (d.recordWith fields settings).implement (.ofMembers (fields.map Member.ofField))
        = .ok i := by
  have hNotRejected : ∀ e, d.implementation ≠ .error (.rejected e) := by
    intro e h
    rw [accepted] at h
    nomatch h
  obtain ⟨fields, settings, hBody, hs, hShapes⟩ :=
    (implementation_ne_rejected_iff d).mp hNotRejected
  have hMergeable : ∀ f ∈ fields, Shape.of f.ty ≠ .required :=
    fun f hf => (Shape.ne_required_iff _).mpr (hShapes f hf)
  rw [implementation_of_mergeable hBody hs hMergeable] at accepted
  exact ⟨fields, settings, hBody, hs, hMergeable, accepted⟩

/-! ## All of it -/

/-- **The outcome of deriving, for every declaration.**  Where several rules are broken,
    (1) a declaration without named fields is rejected for its kind, at its keyword, whatever its
        attributes are, with the keyword and the words that belong to this kind;
    (2) a record whose settings cannot be read is rejected with exactly the fault found there,
        whatever its fields are;
    (3) a record with required fields is rejected for the first of them, named without `r#` and
        pointed at by the code of its type, and no other fields behind it would change that;
    (4) these are all the rejections there are;
    (5) and the keyword of the declaration's kind does stand, behind attributes and visibility, at
        the place where (1) points, in every text that the declaration was read from. -/
theorem implementation_outcome (d : Declaration) :
    (∀ kind, d.body = .other kind →
      d.implementation = .error (.rejected (.wrongKind d.name kind d.keyword))
        ∧ (DeriveError.wrongKind d.name kind d.keyword).location = [.word kind.keyword]
        ∧ ∃ keyword description,
          (kind, keyword, description) ∈ [(.enum, "enum", "an enum"), (.union, "union", "a union"),
            (.tupleStruct, "struct", "a tuple struct"), (.unitStruct, "struct", "a unit struct")]
          ∧ d.body.keyword = keyword
          ∧ (DeriveError.wrongKind d.name kind d.keyword).location = [.word keyword]
          ∧ (DeriveError.wrongKind d.name kind d.keyword).message
            = "Spreadable can only be derived for structs with named fields; `"
              ++ d.name.text ++ "` is " ++ description)
      ∧ (∀ fields fault, d.body = .record fields →
          Settings.ofAttributes d.attributes = .error fault →
          d.implementation = .error (.rejected (.invalidAttribute fault)))
      ∧ (∀ fields settings, d.body = .record fields →
          Settings.ofAttributes d.attributes = .ok settings →
          (∃ f ∈ fields, Shape.of f.ty = .required) →
          ∃ before f after, fields = before ++ f :: after
            ∧ (∀ g ∈ before, Shape.of g.ty ≠ .required) ∧ Shape.of f.ty = .required
            ∧ d.implementation = .error (.rejected (.notOptional d.name f.name f.ty f.span))
            ∧ (DeriveError.notOptional d.name f.name f.ty f.span).location = f.ty.code
            ∧ (DeriveError.notOptional d.name f.name f.ty f.span).message
              = "all fields must be `Option<_>` to derive Spreadable; field `" ++ f.name.name
                ++ "` of `" ++ d.name.text ++ "` is not optional"
            ∧ ∀ others,
              ({ d with body := .record (before ++ f :: others) } : Declaration).implementation
                = d.implementation)
      ∧ ((∀ e, d.implementation ≠ .error (.rejected e)) ↔
          ∃ fields settings, d.body = .record fields
            ∧ Settings.ofAttributes d.attributes = .ok settings
            ∧ ∀ f ∈ fields, Shape.of f.ty = .optional ∨ Shape.of f.ty = .marker)
      ∧ ∀ source : SourceText, source.declaration? = some d →
          ∃ input, d.KeywordAt source input := by
  refine ⟨fun kind h => ?_, fun fields fault h hs => implementation_of_fault h hs, ?_,
    implementation_ne_rejected_iff d, fun source => SourceText.declaration?_keyword⟩
  · have hKeyword : d.body.keyword = kind.keyword := by
      rw [h]
      rfl
    refine ⟨implementation_of_other h, rfl, kind.keyword, kind.description, ?_, hKeyword, rfl, rfl⟩
    cases kind <;> decide
  intro fields settings hBody hs hRequired
  rcases mergeable_or_first_required fields with hAll | ⟨before, f, after, rfl, hBefore, hf⟩
  · obtain ⟨f, hf, hShape⟩ := hRequired
    exact absurd hShape (hAll f hf)
  · have hReport := implementation_of_required hBody hs hBefore hf
    refine ⟨before, f, after, rfl, hBefore, hf, hReport, rfl, rfl, fun others => ?_⟩
    rw [hReport]
    exact implementation_of_required (d := { d with body := .record (before ++ f :: others) })
      rfl hs hBefore hf

/-- A declaration of a type `R` with these attributes and this body. -/
def ofParts (attributes : List Attribute) (body : Body) : Declaration where
  attributes := attributes
  visibility := .inherited
  keyword := default
  name := ⟨"R", false⟩
  generics := {}
  body := body

/-- Three declarations that break more rules than one: an enumeration with a malformed attribute, a
record with a malformed attribute and a required field, and a record with two required fields behind
an optional one.  In a text with such an enumeration, `enum` stands where the keyword is said to
be. -/
theorem implementation_outcome_of_several_mistakes :
    let malformed : Attribute := ⟨.ofNames false [⟨"spreadable", false⟩], default, .bare⟩
    let field := fun name ty => (⟨[], .inherited, name, ty, default⟩ : Field)
    let number : Ty := .path (.ofNames false [⟨"u32", false⟩])
    let optional : Ty :=
      .path (.mk false [.mk ⟨"Option", false⟩ (.angled false [.type number] false)])
    let text : SourceText := ⟨"#[spreadable] pub enum R \x7b\x7d", []⟩
    (∃ d input, text.declaration? = some d ∧ d.KeywordAt text input
        ∧ Cursor.hasWord "enum" input.trees = true)
      ∧ (ofParts [malformed] (.other .enum)).implementation
        = .error (.rejected (.wrongKind ⟨"R", false⟩ .enum default))
      ∧ (ofParts [malformed] (.record [field ⟨"a", false⟩ number])).implementation
        = .error (.rejected (.invalidAttribute
            ⟨.refused "expected attribute arguments in parentheses: #[spreadable(...)]", default⟩))
      ∧ ∃ before f after,
        [field ⟨"a", false⟩ optional, field ⟨"type", true⟩ number, field ⟨"b", false⟩ number]
            = before ++ f :: after
          ∧ (∀ g ∈ before, Shape.of g.ty ≠ .required) ∧ Shape.of f.ty = .required
          ∧ (ofParts [] (.record [field ⟨"a", false⟩ optional, field ⟨"type", true⟩ number,
              field ⟨"b", false⟩ number])).implementation
            = .error (.rejected (.notOptional ⟨"R", false⟩ f.name f.ty f.span)) := by
  intro malformed field number optional text
  have hText : text.declaration?.map (·.body.keyword) = some "enum" := by decide +kernel
  obtain ⟨d, hRead, hWord⟩ := Option.map_eq_some_iff.mp hText
  obtain ⟨input, hInput⟩ := (implementation_outcome d).2.2.2.2 text hRead
  refine ⟨⟨d, input, hRead, hInput, hWord ▸ hInput.word⟩,
    ((implementation_outcome (ofParts [malformed] (.other .enum))).1 .enum rfl).1,
    (implementation_outcome (ofParts [malformed] _)).2.1 _ _ rfl rfl, ?_⟩
  obtain ⟨before, f, after, hSplit, hBefore, hf, hReport, _⟩ :=
    (implementation_outcome (ofParts [] (.record [field ⟨"a", false⟩ optional,
      field ⟨"type", true⟩ number, field ⟨"b", false⟩ number]))).2.2.1 _ {} rfl rfl
      ⟨field ⟨"b", false⟩ number, by simp, by decide⟩
  exact ⟨before, f, after, hSplit, hBefore, hf, hReport⟩

end Declaration

end Overlay
