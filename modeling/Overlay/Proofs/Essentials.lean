import Mathlib.Data.List.Forall2
import Overlay.Proofs.DerivedMerge
import Overlay.Proofs.UnknownKeys

/-!
What derived code depends on.

A declaration says much that has no part in merging: the types of its fields beyond their shapes,
the attributes and the visibility of the fields, attributes that belong to others, how the settings
are spelled, and where in the text all of this stands.  None of it reaches the derived code.

ESSENTIALS  name, visibility, generics, the names and shapes of the fields in order, and the
            recorded path of the runtime crate (`Declaration.Alike`).  Generics are compared up to
            the places of their attributes.
CODE        an implementation is made from the essentials (`implementation_eq_ok_iff`), and its code
            is the same for generics that are alike (`Implementation.code_congr`).
VISIBILITY  is written in front of `fn` in the two methods (`Operation.code_eq_insertBeforeFn`), and
            nowhere else.

The headline is `derived_code_depends_on_essentials`.
-/

namespace Overlay

/-! ## Generics up to places -/

namespace GenericParam

/-- The same parameter, perhaps in another place: only attributes know where they stand. -/
structure Alike (p q : GenericParam) : Prop where
  attributes : p.attributes.map Attribute.code = q.attributes.map Attribute.code
  name : p.name = q.name
  kind : p.kind = q.kind

variable {p q : GenericParam}

theorem Alike.isLifetime_eq (h : p.Alike q) : p.isLifetime = q.isLifetime := by
  rw [isLifetime, h.kind, isLifetime]

theorem Alike.nameCode_eq (h : p.Alike q) : p.nameCode = q.nameCode := by
  rw [nameCode, h.isLifetime_eq, h.name, nameCode]

theorem Alike.binding_eq (h : p.Alike q) : p.binding = q.binding := by
  rw [binding, List.flatMap_def, h.attributes, h.name, h.kind, binding, List.flatMap_def]

end GenericParam

namespace Generics

/-- The same generics, perhaps in another place. -/
structure Alike (g h : Generics) : Prop where
  params : List.Forall₂ GenericParam.Alike g.params h.params
  trailing : g.trailing = h.trailing
  conditions : g.conditions = h.conditions

variable {g h : Generics}

/-- A list of parameters is spelled the same if each of them is. -/
theorem Alike.angled_eq (hAlike : g.Alike h) {spell : GenericParam → Code}
    (hSpell : ∀ p q : GenericParam, p.Alike q → spell p = spell q) :
    g.angled spell = h.angled spell := by
  have hItems : g.params.map (fun p => (p.isLifetime, spell p))
      = h.params.map fun p => (p.isLifetime, spell p) := by
    rw [← List.forall₂_eq_eq_eq, List.forall₂_map_left_iff, List.forall₂_map_right_iff]
    exact hAlike.params.imp fun p q hpq => Prod.ext hpq.isLifetime_eq (hSpell p q hpq)
  -- without parameters there are no brackets, so that this has to agree on its own
  have hEmpty : g.params.isEmpty = h.params.isEmpty := by
    rw [← List.isEmpty_map (f := fun p => (p.isLifetime, spell p)), hItems, List.isEmpty_map]
  rw [angled, hItems, hEmpty, hAlike.trailing, angled]

theorem Alike.binders_eq (hAlike : g.Alike h) : g.binders = h.binders :=
  hAlike.angled_eq fun _ _ => GenericParam.Alike.binding_eq

theorem Alike.arguments_eq (hAlike : g.Alike h) : g.arguments = h.arguments :=
  hAlike.angled_eq fun _ _ => GenericParam.Alike.nameCode_eq

theorem Alike.conditionsCode_eq (hAlike : g.Alike h) : g.conditionsCode = h.conditionsCode := by
  rw [conditionsCode, hAlike.conditions, conditionsCode]

end Generics

namespace Implementation

/-- **Derived code does not know the places of the generics.** -/
theorem code_congr {i j : Implementation} (hRecord : i.record = j.record)
    (hGenerics : i.generics.Alike j.generics) (hRuntime : i.runtime = j.runtime)
    (hMerging : i.merging = j.merging) (hInPlace : i.mergingInPlace = j.mergingInPlace) :
    i.code = j.code := by
  have hHeader (trait : Code) : i.header trait = j.header trait := by
    rw [header, hGenerics.binders_eq, hRecord, hGenerics.arguments_eq,
      hGenerics.conditionsCode_eq, header]
  rw [code, inherentCode, traitCode, hHeader, hHeader, hRuntime, hMerging, hInPlace, code,
    inherentCode, traitCode]

end Implementation

/-! ## Essentials -/

namespace FieldNames

/-- The names of fields, by shapes that are given beside them. -/
def ofShapes (members : List (Ident × Shape)) : FieldNames where
  fields := (members.filter (·.2 = .optional)).map (·.1)
  markers := (members.filter (·.2 = .marker)).map (·.1)

/-- Every name that does not go with a required field is kept. -/
theorem mem_ofShapes {members : List (Ident × Shape)} {name : Ident} :
    name ∈ (ofShapes members).fields ++ (ofShapes members).markers
      ↔ ∃ shape, (name, shape) ∈ members ∧ shape ≠ .required := by
  simp only [ofShapes, List.mem_append, List.mem_map, List.mem_filter, decide_eq_true_eq]
  constructor
  · rintro (⟨⟨_, shape⟩, ⟨hMem, rfl⟩, rfl⟩ | ⟨⟨_, shape⟩, ⟨hMem, rfl⟩, rfl⟩)
    · exact ⟨.optional, hMem, nofun⟩
    · exact ⟨.marker, hMem, nofun⟩
  · rintro ⟨shape, hMem, hShape⟩
    rcases (Shape.ne_required_iff shape).mp hShape with rfl | rfl
    · exact Or.inl ⟨(name, .optional), ⟨hMem, rfl⟩, rfl⟩
    · exact Or.inr ⟨(name, .marker), ⟨hMem, rfl⟩, rfl⟩

end FieldNames

/-- Methods are built where a record literal can mention every name. -/
theorem Record.implement_eq_ok_iff {r : Record} {m : FieldNames} {i : Implementation} :
    r.implement m = .ok i ↔ (∀ name ∈ m.fields ++ m.markers, name.isLabel = true)
      ∧ i = ⟨r.name, r.generics, r.settings.runtimeCode, .merging r.visibility m,
        .mergingInPlace r.visibility m⟩ := by
  constructor
  · intro h
    refine ⟨fun name hName => ?_, implement_eq_ok h⟩
    by_contra hLabel
    unfold implement at h
    split at h
    · nomatch h
    · rename_i hFind
      exact hLabel (by simpa using List.find?_eq_none.mp hFind name hName)
  · rintro ⟨hLabels, rfl⟩
    have hFind : (m.fields ++ m.markers).find? (!·.isLabel) = none := by
      refine List.find?_eq_none.mpr fun name hName => ?_
      simp [hLabels name hName]
    rw [implement, hFind]

namespace Declaration

/-- The names of the fields with their shapes, in the order of declaration. -/
def memberShapes (d : Declaration) : List (Ident × Shape) :=
  d.fields.map fun f => (f.name, Shape.of f.ty)

/-- The path of the runtime crate that the attributes record, if they record one. -/
def runtime? (d : Declaration) : Option Path :=
  match Settings.ofAttributes d.attributes with
  | .ok settings => settings.runtime
  | .error _ => none

/-- The two declarations say the same about merging. -/
structure Alike (d e : Declaration) : Prop where
  name : d.name = e.name
  visibility : d.visibility = e.visibility
  generics : d.generics.Alike e.generics
  members : d.memberShapes = e.memberShapes
  runtime : d.runtime? = e.runtime?

/-- Nothing is wrong with a declaration: it is a record with readable settings and without required
fields, and a record literal can mention its fields. -/
structure IsMergeable (d : Declaration) : Prop where
  isRecord : ∃ fields, d.body = .record fields
  isReadable : ∃ settings, Settings.ofAttributes d.attributes = .ok settings
  shapes : ∀ member ∈ d.memberShapes, member.2 ≠ .required
  labels : ∀ member ∈ d.memberShapes, member.1.isLabel = true

/-- What is derived for a declaration that nothing is wrong with, from its essentials. -/
def derived (d : Declaration) : Implementation where
  record := d.name
  generics := d.generics
  runtime := Settings.runtimeCode ⟨d.runtime?⟩
  merging := .merging d.visibility (.ofShapes d.memberShapes)
  mergingInPlace := .mergingInPlace d.visibility (.ofShapes d.memberShapes)

variable {d : Declaration}

theorem memberShapes_of_record {fields : List Field} (hBody : d.body = .record fields) :
    d.memberShapes = fields.map fun f => (f.name, Shape.of f.ty) := by
  rw [memberShapes, Declaration.fields, hBody]

theorem ofShapes_memberShapes {fields : List Field} (hBody : d.body = .record fields) :
    FieldNames.ofShapes d.memberShapes = .ofMembers (fields.map Member.ofField) := by
  rw [memberShapes_of_record hBody]
  simp only [FieldNames.ofMembers, FieldNames.ofShapes, List.filter_map, List.map_map]
  rfl

/-- **What is derived, and for which declarations.** -/
theorem implementation_eq_ok_iff {i : Implementation} :
    d.implementation = .ok i ↔ d.IsMergeable ∧ i = d.derived := by
  -- settings consist of the path alone
  have hRuntime {settings : Settings} (h : Settings.ofAttributes d.attributes = .ok settings) :
      settings = ⟨d.runtime?⟩ := by
    rw [runtime?, h]
  constructor
  · intro accepted
    obtain ⟨fields, settings, hBody, hSettings, hFields, hImplement⟩ :=
      stages_of_implementation_eq_ok accepted
    have hShapes : ∀ member ∈ d.memberShapes, member.2 ≠ .required := by
      rw [memberShapes_of_record hBody]
      intro member hMember
      obtain ⟨f, hf, rfl⟩ := List.mem_map.mp hMember
      exact hFields f hf
    rw [← ofShapes_memberShapes hBody, Record.implement_eq_ok_iff] at hImplement
    obtain ⟨hLabels, rfl⟩ := hImplement
    refine ⟨⟨⟨fields, hBody⟩, ⟨settings, hSettings⟩, hShapes, fun member hMember => ?_⟩, ?_⟩
    · exact hLabels member.1
        (FieldNames.mem_ofShapes.mpr ⟨member.2, hMember, hShapes member hMember⟩)
    · rw [hRuntime hSettings]
      rfl
  · rintro ⟨⟨⟨fields, hBody⟩, ⟨settings, hSettings⟩, hShapes, hLabels⟩, rfl⟩
    have hMergeable : ∀ f ∈ fields, Shape.of f.ty ≠ .required := by
      rw [memberShapes_of_record hBody] at hShapes
      exact fun f hf => hShapes _ (List.mem_map_of_mem hf)
    rw [implementation_of_mergeable hBody hSettings hMergeable, ← ofShapes_memberShapes hBody,
      Record.implement_eq_ok_iff]
    refine ⟨fun name hName => ?_, ?_⟩
    · obtain ⟨shape, hMember, -⟩ := FieldNames.mem_ofShapes.mp hName
      exact hLabels (name, shape) hMember
    · rw [hRuntime hSettings]
      rfl

end Declaration

/-! ## Visibility -/

/-- Is this token `fn`? -/
def Token.isFn : Token → Bool
  | .word "fn" => true
  | _ => false

namespace Code

/-- The code with `front` put before every `fn` at its top. -/
def insertBeforeFn (code front : Code) : Code :=
  code.flatMap fun t => if t.isFn then front ++ [t] else [t]

theorem insertBeforeFn_append (code more front : Code) :
    (code ++ more).insertBeforeFn front = code.insertBeforeFn front ++ more.insertBeforeFn front :=
  List.flatMap_append

/-- Code without `fn` stays as it is. -/
theorem insertBeforeFn_of_forall_ne {code : Code} (h : ∀ t ∈ code, t.isFn = false) (front : Code) :
    code.insertBeforeFn front = code := by
  induction code with
  | nil => rfl
  | cons t rest ih =>
    have hRest := ih fun u hu => h u (List.mem_cons_of_mem t hu)
    rw [insertBeforeFn, List.flatMap_cons, h t List.mem_cons_self, if_neg Bool.false_ne_true]
    exact congrArg (t :: ·) hRest

/-- Code with one `fn` in it. -/
theorem insertBeforeFn_of_split {before after : Code} (hBefore : ∀ t ∈ before, t.isFn = false)
    (hAfter : ∀ t ∈ after, t.isFn = false) (front : Code) :
    (before ++ .word "fn" :: after).insertBeforeFn front
      = before ++ front ++ .word "fn" :: after := by
  have hFn : insertBeforeFn (.word "fn" :: after) front
      = front ++ .word "fn" :: after.insertBeforeFn front := by
    rw [insertBeforeFn, List.flatMap_cons]
    show (front ++ [.word "fn"]) ++ _ = _
    rw [List.append_assoc]
    rfl
  rw [insertBeforeFn_append, insertBeforeFn_of_forall_ne hBefore, hFn,
    insertBeforeFn_of_forall_ne hAfter, List.append_assoc]

end Code

namespace Operation

/-- The attributes in front of a method. -/
def attributesCode (op : Operation) : Code :=
  attributeCode [.word "doc", .punct '=', .literal (Text.quote op.doc)]
    ++ (if op.returnsSelf then attributeCode [.word "must_use"] else [])

/-- What stands behind the `fn` of a method. -/
def signatureCode (op : Operation) : Code :=
  .word op.name :: .group .parenthesis (MethodCode.paramsOf op) :: returnCode op.returnsSelf
    ++ [.group .brace op.bodyCode]

theorem code_eq_split (op : Operation) :
    op.code = op.attributesCode ++ op.visibility.code ++ .word "fn" :: op.signatureCode := by
  simp [code, attributesCode, signatureCode, MethodCode.paramsOf]

theorem isFn_of_mem_attributesCode (op : Operation) : ∀ t ∈ op.attributesCode, t.isFn = false := by
  unfold attributesCode
  cases op.returnsSelf <;> simp [attributeCode, Token.punct, Token.isFn]

theorem isFn_of_mem_signatureCode {op : Operation} (hName : (Token.word op.name).isFn = false) :
    ∀ t ∈ op.signatureCode, t.isFn = false := by
  have hRest : ∀ t ∈ Token.group .parenthesis (MethodCode.paramsOf op) :: returnCode op.returnsSelf
      ++ [.group .brace op.bodyCode], t.isFn = false := by
    cases op.returnsSelf <;> simp [returnCode, Token.sign, Token.word, Token.punct, Token.isFn]
  intro t ht
  rcases List.mem_cons.mp ht with rfl | ht
  · exact hName
  · exact hRest t ht

/-- **Visibility is written in front of `fn`**, and nowhere else in a method. -/
theorem code_eq_insertBeforeFn {op : Operation} (hName : (Token.word op.name).isFn = false)
    (hInherited : op.visibility = .inherited) (v : Visibility) :
    ({ op with visibility := v } : Operation).code = op.code.insertBeforeFn v.code := by
  rw [code_eq_split op, hInherited, Visibility.code, List.append_nil,
    Code.insertBeforeFn_of_split op.isFn_of_mem_attributesCode (isFn_of_mem_signatureCode hName),
    code_eq_split]
  rfl

/-- A method has one `fn`. -/
theorem countP_isFn_code {op : Operation} (hName : (Token.word op.name).isFn = false)
    (hInherited : op.visibility = .inherited) : op.code.countP Token.isFn = 1 := by
  have hAttributes : op.attributesCode.countP Token.isFn = 0 :=
    List.countP_eq_zero.mpr fun t ht => by rw [op.isFn_of_mem_attributesCode t ht]; exact nofun
  have hSignature : op.signatureCode.countP Token.isFn = 0 :=
    List.countP_eq_zero.mpr fun t ht => by rw [isFn_of_mem_signatureCode hName t ht]; exact nofun
  rw [code_eq_split, hInherited, Visibility.code, List.append_nil, List.countP_append,
    List.countP_cons, hAttributes, hSignature]
  rfl

end Operation

/-! ## Derived code and its essentials -/

/-- **Derived code depends on the essentials of a declaration.**  For a declaration that is
accepted,
    (1) every accepted declaration that says the same about merging has the same derived code: the
        types, visibilities and attributes of the fields, the attributes of others, and the spelling
        and the order of the settings have no part in it;
    (2) with any visibility in place of the inherited one it is accepted too, and its derived code
        differs by the code of that visibility in front of the `fn` of each of the record's own two
        methods. -/
theorem derived_code_depends_on_essentials {d : Declaration} {i : Implementation}
    (accepted : d.implementation = .ok i) :
    (∀ e j, e.implementation = .ok j → d.Alike e → i.code = j.code)
      ∧ (d.visibility = .inherited → ∀ v, ∃ (j : Implementation) (content : Code),
          ({ d with visibility := v } : Declaration).implementation = .ok j
            ∧ i.code = i.header [] ++ .group .brace content :: i.traitCode
            ∧ (MethodCode.allIn content).map (·.name) = [mergeName, mergeInPlaceName]
            ∧ content.countP Token.isFn = 2
            ∧ j.code = i.header [] ++ .group .brace (content.insertBeforeFn v.code)
                :: i.traitCode) := by
  obtain ⟨hMergeable, rfl⟩ := Declaration.implementation_eq_ok_iff.mp accepted
  constructor
  · intro e j hAccepted hAlike
    obtain ⟨-, rfl⟩ := Declaration.implementation_eq_ok_iff.mp hAccepted
    refine Implementation.code_congr hAlike.name hAlike.generics ?_ ?_ ?_
    · rw [Declaration.derived, hAlike.runtime, Declaration.derived]
    · rw [Declaration.derived, hAlike.visibility, hAlike.members, Declaration.derived]
    · rw [Declaration.derived, hAlike.visibility, hAlike.members, Declaration.derived]
  · intro hInherited v
    -- no stage looks at the visibility
    have hChanged : ({ d with visibility := v } : Declaration).IsMergeable :=
      ⟨hMergeable.isRecord, hMergeable.isReadable, hMergeable.shapes, hMergeable.labels⟩
    refine ⟨_, d.derived.merging.code ++ d.derived.mergingInPlace.code,
      Declaration.implementation_eq_ok_iff.mpr ⟨hChanged, rfl⟩, ?_, ?_, ?_, ?_⟩
    · rw [Implementation.code, Implementation.inherentCode, List.append_assoc]
      rfl
    · have hLast := MethodCode.allIn_code d.derived.mergingInPlace []
      rw [List.append_nil] at hLast
      rw [MethodCode.allIn_code, hLast]
      rfl
    · rw [List.countP_append, Operation.countP_isFn_code rfl hInherited,
        Operation.countP_isFn_code rfl hInherited]
    · rw [Code.insertBeforeFn_append, ← Operation.code_eq_insertBeforeFn rfl hInherited,
        ← Operation.code_eq_insertBeforeFn rfl hInherited, Implementation.code,
        Implementation.inherentCode, List.append_assoc]
      rfl

/-! ### Two declarations that say the same -/

/-- `#[a]` at some place. -/
def attributeA (place : Span) : Attribute := ⟨.ofNames false [⟨"a", false⟩], place, .bare⟩

/-- A record `S<#[a] T>` with these attributes and fields; the attribute of `T` stands at some
place. -/
def genericRecord (attributes : List Attribute) (place : Span) (fields : List Field) :
    Declaration where
  attributes := attributes
  visibility := .inherited
  keyword := default
  name := ⟨"S", false⟩
  generics := { params := [⟨[attributeA place], ⟨"T", false⟩, .type [] false none⟩] }
  body := .record fields

/-- The type `Option<inner>`. -/
def optionOf (inner : Ty) : Ty :=
  .path (.mk false [.mk ⟨"Option", false⟩ (.angled false [.type inner] false)])

/-- The type `PhantomData`. -/
def phantomTy : Ty := .path (.ofNames false [⟨"PhantomData", false⟩])

/-- A record with the path `a` in its settings, and with plain fields. -/
def plainRecord : Declaration :=
  genericRecord [Settings.attributeOf Settings.crateTrees] default
    [⟨[], .inherited, ⟨"from", false⟩, optionOf .never, default⟩,
      ⟨[], .inherited, ⟨"tag", false⟩, phantomTy, default⟩]

/-- The same path among unknown keys and behind an attribute of somebody else, and the same fields
with malformed attributes and with other types, behind parentheses and in an invisible group. -/
def dressedRecord : Declaration :=
  genericRecord [attributeA default, Settings.attributeOf Settings.mixedTrees] ⟨default, ⟨2, 7⟩⟩
    [⟨[⟨.ofNames false [⟨"spreadable", false⟩], default, .bare⟩], .visible, ⟨"from", false⟩,
        .paren (.group (.paren (optionOf (optionOf .infer)))), ⟨default, ⟨3, 9⟩⟩⟩,
      ⟨[attributeA default], .inherited, ⟨"tag", false⟩, .group phantomTy, default⟩]

theorem plainRecord_settings :
    Settings.ofAttributes plainRecord.attributes = .ok ⟨some Settings.pathA⟩ :=
  Settings.ofAttributes_of_holdAll Settings.holdAll_crateTrees

theorem dressedRecord_settings :
    Settings.ofAttributes dressedRecord.attributes = .ok ⟨some Settings.pathA⟩ := by
  have hHold : Settings.HoldAll dressedRecord.attributes
      [[.bare, .listed, .runtime Settings.pathA, .valued]] :=
    Settings.holdAll_mixedTrees
  exact Settings.ofAttributes_of_holdAll hHold

theorem derived_code_depends_on_essentials_when_dressed :
    plainRecord.implementation = .ok plainRecord.derived
      ∧ dressedRecord.implementation = .ok dressedRecord.derived
      ∧ plainRecord.Alike dressedRecord
      ∧ plainRecord.derived.code = dressedRecord.derived.code
      ∧ ∃ (j : Implementation) (content : Code),
          ({ plainRecord with visibility := .visible } : Declaration).implementation = .ok j
            ∧ content.countP Token.isFn = 2
            ∧ j.code = plainRecord.derived.header []
              ++ .group .brace (content.insertBeforeFn [.word "pub"])
                  :: plainRecord.derived.traitCode := by
  have hPlain : plainRecord.implementation = .ok plainRecord.derived :=
    Declaration.implementation_eq_ok_iff.mpr
      ⟨⟨⟨_, rfl⟩, ⟨_, plainRecord_settings⟩, by decide, by decide⟩, rfl⟩
  have hDressed : dressedRecord.implementation = .ok dressedRecord.derived :=
    Declaration.implementation_eq_ok_iff.mpr
      ⟨⟨⟨_, rfl⟩, ⟨_, dressedRecord_settings⟩, by decide, by decide⟩, rfl⟩
  have hAlike : plainRecord.Alike dressedRecord :=
    { name := rfl
      visibility := rfl
      generics := ⟨.cons ⟨rfl, rfl, rfl⟩ .nil, rfl, rfl⟩
      members := by decide
      runtime := by
        rw [Declaration.runtime?, plainRecord_settings, Declaration.runtime?,
          dressedRecord_settings] }
  obtain ⟨hSame, hVisible⟩ := derived_code_depends_on_essentials hPlain
  obtain ⟨j, content, hAccepted, -, -, hCount, hCode⟩ := hVisible rfl .visible
  exact ⟨hPlain, hDressed, hAlike, hSame _ _ hDressed hAlike, j, content, hAccepted, hCount, hCode⟩

end Overlay
