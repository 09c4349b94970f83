import Overlay.Proofs.RecordLiterals

/-!
The bindings that derived methods declare, and what they do with them.

A binding that is declared `mut` without need is warned about, one that is emptied without `mut` is
an error, and a parameter that is not used is warned about as well.  The head and the body of a
method are printed apart, so that they have to agree on this.

1. **Code**: what is compared is the code of a method.  `Code.uses` finds the places in a body where
   a binding is used, and whether a field is taken out of it there; `MethodCode.declared?` reads the
   parameters.  Neither knows what the code was printed from.
2. **Names**: most identifiers of a body are no bindings.  Behind a point stands a field or a
   method, in front of a colon a label or a path, and keywords other than `self` stand for
   themselves.  So a field may be called `from` or `take`, and is no use of anything.
3. **The crux**: a comma ends everything that a use could reach into (`usesFrom_append_comma`), so
   that the uses in a record literal are those in its entries, one after the other
   (`uses_separated`).
-/

namespace Overlay

/-! ## Uses of bindings in code -/

/-- A place in code where a binding is used; `taken` is the field on which `take` is called
there. -/
structure Use where
  binding : Ident
  taken : Option Ident := none
deriving DecidableEq, Repr

/-- What stands in front of a token, as far as this decides what an identifier means. -/
inductive Lead where
  /-- Nothing that matters: an expression may begin here. -/
  | start
  /-- A character that the next one completes to a sign. -/
  | glued
  /-- A colon that the next character completes to `::`. -/
  | colon
  /-- `::` -/
  | colons
  /-- A point. -/
  | point
deriving DecidableEq, Repr

namespace Lead

/-- What the next token finds in front of it.  Two points are no point. -/
def behind : Lead → Token → Lead
  | colon, .atom (.punct ':' _) => colons
  | _, .atom (.punct ':' .joint) => colon
  | _, .atom (.punct _ .joint) => glued
  | glued, .atom (.punct _ .alone) => start
  | _, .punct '.' => point
  | _, _ => start

/-- Whether an identifier may be a binding here: it names no field and no method, and is not part of
a path. -/
def isFree : Lead → Bool
  | point | colons => false
  | _ => true

end Lead

namespace Code

/-- A colon follows: the identifier in front is a label or begins a path. -/
def beginsWithColon : Code → Bool
  | .atom (.punct ':' _) :: _ => true
  | _ => false

/-- The field that is taken, if this stands behind a binding. -/
def takenField? : Code → Option Ident
  | .punct '.' :: .atom (.ident field) :: .punct '.' :: .word "take"
      :: .group .parenthesis [] :: _ => some field
  | _ => none

end Code

/-- The name of a binding: of keywords, only `self` is one. -/
def Ident.isBinding (name : Ident) : Bool := name = ⟨"self", false⟩ || Cursor.isName name

mutual

/-- The uses at a token, or inside of it, between what stands in front of it and what follows. -/
def Token.usesAt (lead : Lead) : Token → Code → List Use
  | .atom (.ident name), rest =>
    if lead.isFree && !rest.beginsWithColon && name.isBinding then
      [⟨name, rest.takenField?⟩]
    else []
  | .atom _, _ => []
  | .group _ content, _ => usesFrom .start content

/-- The uses of bindings in code, from left to right. -/
def usesFrom : Lead → List Token → List Use
  | _, [] => []
  | lead, t :: rest => t.usesAt lead rest ++ usesFrom (lead.behind t) rest

end

/-- The uses of bindings in all of the code. -/
def Code.uses (code : Code) : List Use := usesFrom .start code

namespace Code

/-- The call that takes a field, behind a binding. -/
def takeCall (field : Ident) : Code :=
  [.punct '.', .ident field, .punct '.', .word "take", .group .parenthesis []]

theorem takenField?_eq_some_iff {code : Code} {field : Ident} :
    code.takenField? = some field ↔ takeCall field <+: code := by
  constructor
  · intro h
    unfold takenField? at h
    split at h
    · obtain rfl := Option.some.inj h
      exact ⟨_, rfl⟩
    · nomatch h
  · rintro ⟨rest, rfl⟩
    rfl

theorem beginsWithColon_append_comma (code rest : Code) :
    beginsWithColon (code ++ .punct ',' :: rest) = beginsWithColon code := by
  cases code with
  | nil => rfl
  | cons t code =>
    unfold beginsWithColon
    split <;> simp_all

/-- A comma is no part of the call. -/
theorem prefix_append_comma_iff {field : Ident} (code rest : Code) :
    takeCall field <+: code ++ .punct ',' :: rest ↔ takeCall field <+: code := by
  have hComma : Token.punct ',' ∉ takeCall field := by
    simp [takeCall, Token.punct, Token.ident, Token.word]
  constructor
  · intro h
    have hFront : code ++ [.punct ','] <+: code ++ .punct ',' :: rest := ⟨rest, by simp⟩
    rcases List.prefix_or_prefix_of_prefix h hFront with hCall | hCode
    · rcases List.prefix_concat_iff.mp hCall with hAll | hCall
      · exact absurd (by rw [hAll]; simp) hComma
      · exact hCall
    · exact absurd (hCode.subset (by simp)) hComma
  · exact fun h => h.trans (List.prefix_append _ _)

theorem takenField?_append_comma (code rest : Code) :
    takenField? (code ++ .punct ',' :: rest) = takenField? code := by
  refine Option.ext fun field => ?_
  rw [takenField?_eq_some_iff, takenField?_eq_some_iff, prefix_append_comma_iff]

/-- **A comma cuts the uses in two.**  Nothing in front of it reaches behind it. -/
theorem usesFrom_append_comma (lead : Lead) (code rest : Code) :
    usesFrom lead (code ++ .punct ',' :: rest) = usesFrom lead code ++ usesFrom .start rest := by
  induction code generalizing lead with
  | nil => cases lead <;> rfl
  | cons t code ih =>
    have hToken : t.usesAt lead (code ++ .punct ',' :: rest) = t.usesAt lead code := by
      cases t with
      | group d content => rfl
      | atom a =>
        cases a with
        | ident name =>
          rw [Token.usesAt, Token.usesAt, beginsWithColon_append_comma, takenField?_append_comma]
        | punct c spacing => rfl
        | literal text => rfl
    rw [List.cons_append, usesFrom, hToken, ih, usesFrom, List.append_assoc]

/-- The uses in a list are those in its items. -/
theorem uses_separated (items : List Code) :
    uses (separated (.punct ',') false items) = items.flatMap uses := by
  induction items with
  | nil => rfl
  | cons item items ih =>
    cases items with
    | nil => exact (List.append_nil _).symm
    | cons next rest => rw [separated, uses, usesFrom_append_comma, List.flatMap_cons, ← ih]; rfl

end Code

/-! ## Uses in derived code -/

namespace Source

/-- The binding of a record. -/
def binding : Source → Ident
  | receiver => ⟨"self", false⟩
  | override => ⟨"from", false⟩

end Source

namespace FieldNames

/-- The uses that merge a field: it is taken out of both records. -/
def usesOf (field : Ident) : List Use :=
  [⟨Source.override.binding, some field⟩, ⟨Source.receiver.binding, some field⟩]

theorem uses_merged (field : Ident) : (Entry.merged field).code.uses = usesOf field := rfl

theorem uses_marker (field : Ident) : (Entry.marker field).code.uses = [] := rfl

/-- **In the record literal the merged fields are taken, each out of both records**, and nothing
else is used. -/
theorem uses_literalContent (m : FieldNames) : m.literalContent.uses = m.fields.flatMap usesOf := by
  have hMarkers : m.markers.flatMap (fun f => (Entry.marker f).code.uses) = [] := by
    simp [uses_marker]
  calc m.literalContent.uses
      = m.entries.flatMap fun e => e.code.uses := by
        rw [literalContent, Code.uses_separated, List.flatMap_map]
    _ = m.fields.flatMap (fun f => (Entry.merged f).code.uses)
          ++ m.markers.flatMap fun f => (Entry.marker f).code.uses := by
        rw [entries, List.flatMap_append, List.flatMap_map, List.flatMap_map]
    _ = m.fields.flatMap usesOf := by
        simp only [uses_merged, hMarkers, List.append_nil]

/-- The use of the override in front of the literal, where nothing is merged. -/
def ignored (m : FieldNames) : List Use := if m.takes then [] else [⟨Source.override.binding, none⟩]

/-- What stands in front of the last statement of a body. -/
theorem uses_bodyWith (m : FieldNames) (last : Statement) :
    Code.uses ((m.bodyWith last).flatMap Statement.code) = m.ignored ++ last.code.uses := by
  unfold bodyWith ignored
  rw [List.flatMap_append, List.flatMap_singleton]
  cases m.takes <;> rfl

theorem uses_result (m : FieldNames) :
    (Statement.result m.entries).code.uses = m.fields.flatMap usesOf := by
  rw [← uses_literalContent]
  exact List.append_nil _

theorem uses_assign (m : FieldNames) :
    (Statement.assign m.entries).code.uses
      = ⟨Source.receiver.binding, none⟩ :: m.fields.flatMap usesOf := by
  rw [← uses_literalContent]
  exact congrArg _ (List.append_nil _)

end FieldNames

/-! ## Declared bindings -/

/-- A binding that a method declares. -/
structure Declared where
  binding : Ident
  byReference : Bool
  mutable : Bool
deriving DecidableEq, Repr

namespace Declared

/-- Reads a parameter: a receiver, or a binding with its type. -/
def read? : Code → Option Declared
  | [.word "self"] => some ⟨⟨"self", false⟩, false, false⟩
  | [.word "mut", .word "self"] => some ⟨⟨"self", false⟩, false, true⟩
  | [.punct '&', .word "self"] => some ⟨⟨"self", false⟩, true, false⟩
  | [.punct '&', .word "mut", .word "self"] => some ⟨⟨"self", false⟩, true, true⟩
  | .word "mut" :: .atom (.ident binding) :: .punct ':' :: _ => some ⟨binding, false, true⟩
  | .atom (.ident binding) :: .punct ':' :: _ => some ⟨binding, false, false⟩
  | _ => none

end Declared

namespace MethodCode

/-- The bindings that a method declares, in order. -/
def declared? (m : MethodCode) : Option (List Declared) := m.params.parts.mapM Declared.read?

theorem declared?_ofOperation (op : Operation) :
    (ofOperation op).declared? = some
      [⟨Source.receiver.binding, op.receiver = .reference, op.receiver = .reference || op.mutable⟩,
        ⟨Source.override.binding, false, op.mutable⟩] := by
  cases op with
  | mk doc visibility name receiver mutable returnsSelf body =>
    cases receiver <;> cases mutable <;> rfl

/-- The tokens of `let _ = from;`. -/
def ignoreTokens : Code := [.word "let", .word "_", .punct '=', .word "from", .punct ';']

/-- The method declares its bindings as its body needs them, where these fields are merged and
`content` stands in the braces of the record literal. -/
structure BindsAsUsed (method : MethodCode) (fields : List Ident) (content : Code)
    (receiver override : Declared) : Prop where
  declared : method.declared? = some [receiver, override]
  receiver_binding : receiver.binding = ⟨"self", false⟩
  override_binding : override.binding = ⟨"from", false⟩
  override_byReference : override.byReference = false
  /-- The override is mutable exactly if a field is taken out of it. -/
  override_mutable_iff : override.mutable = true
    ↔ ∃ field, ⟨override.binding, some field⟩ ∈ method.body.uses
  /-- So is a receiver that is passed by value. -/
  receiver_mutable_iff : receiver.byReference = false →
    (receiver.mutable = true ↔ ∃ field, ⟨receiver.binding, some field⟩ ∈ method.body.uses)
  /-- A reference is always mutable. -/
  reference_mutable : receiver.byReference = true → receiver.mutable = true
  override_used : ∃ use ∈ method.body.uses, use.binding = override.binding
  /-- The override is mentioned by itself exactly if nothing is merged, -/
  ignored_iff : ignoreTokens <:+: method.body ↔ fields = []
  literal : method.body.recordLiterals = [content]
  /-- and by the literal otherwise. -/
  literal_uses_iff : (∃ use ∈ content.uses, use.binding = override.binding) ↔ fields ≠ []
  uses_declared : ∀ use ∈ method.body.uses, use.binding = receiver.binding
    ∨ use.binding = override.binding

end MethodCode

namespace FieldNames

theorem takes_iff (m : FieldNames) : m.takes = true ↔ m.fields ≠ [] := by
  cases hFields : m.fields with
  | nil => simp [takes, hFields]
  | cons f rest => simp [takes, hFields]

theorem mem_ignored_iff {m : FieldNames} {use : Use} :
    use ∈ m.ignored ↔ m.fields = [] ∧ use = ⟨Source.override.binding, none⟩ := by
  unfold ignored
  cases hTakes : m.takes with
  | true => simp [m.takes_iff.mp hTakes]
  | false =>
    have hFields : m.fields = [] := by
      by_contra h
      rw [m.takes_iff.mpr h] at hTakes
      nomatch hTakes
    simp [hFields]

theorem mem_usesOf_iff {field : Ident} {use : Use} :
    use ∈ usesOf field ↔ ∃ source : Source, use = ⟨source.binding, some field⟩ := by
  simp only [usesOf, List.mem_cons, List.not_mem_nil, or_false]
  constructor
  · rintro (rfl | rfl)
    · exact ⟨.override, rfl⟩
    · exact ⟨.receiver, rfl⟩
  · rintro ⟨source, rfl⟩
    cases source
    · exact Or.inr rfl
    · exact Or.inl rfl

/-- What a body that ends in this statement uses: `front` is what stands in front of the literal. -/
theorem mem_uses_iff {m : FieldNames} {last : Statement} {front : List Use}
    (hLast : last.code.uses = front ++ m.fields.flatMap usesOf) {use : Use} :
    use ∈ Code.uses ((m.bodyWith last).flatMap Statement.code) ↔
      (m.fields = [] ∧ use = ⟨Source.override.binding, none⟩) ∨ use ∈ front
        ∨ ∃ field ∈ m.fields, ∃ source : Source, use = ⟨source.binding, some field⟩ := by
  simp only [uses_bodyWith, hLast, List.mem_append, mem_ignored_iff, List.mem_flatMap,
    mem_usesOf_iff]

/-- The override is mentioned by itself where nothing is merged. -/
theorem ignoreTokens_infix_iff {m : FieldNames} {last : Statement}
    (hLast : Token.word "let" ∉ last.code) :
    MethodCode.ignoreTokens <:+: (m.bodyWith last).flatMap Statement.code ↔ m.fields = [] := by
  rw [bodyWith, List.flatMap_append, List.flatMap_singleton]
  constructor
  · intro h
    by_contra hFields
    rw [if_pos (m.takes_iff.mpr hFields)] at h
    exact hLast (h.subset List.mem_cons_self)
  · intro hFields
    have hTakes : ¬ m.takes = true := fun h => m.takes_iff.mp h hFields
    rw [if_neg hTakes]
    exact (List.prefix_append MethodCode.ignoreTokens last.code).isInfix

/-- **The two operations bind what their bodies use.**  They differ in what stands in front of the
literal, which takes no field and uses no more than the receiver. -/
theorem bindsAsUsed (op : Operation) {m : FieldNames} {last : Statement} (front : List Use)
    (hBody : op.body = m.bodyWith last) (hMutable : op.mutable = m.takes)
    (hUses : last.code.uses = front ++ m.fields.flatMap usesOf)
    (hFront : ∀ use ∈ front, use = ⟨Source.receiver.binding, none⟩)
    (hLet : Token.word "let" ∉ last.code)
    (hLiteral : op.bodyCode.recordLiterals = [m.literalContent]) :
    ∃ receiver override,
      (MethodCode.ofOperation op).BindsAsUsed m.fields m.literalContent receiver override
      ∧ (receiver.byReference = true ↔ op.receiver = .reference) := by
  have hCode : op.bodyCode = (m.bodyWith last).flatMap Statement.code := by
    rw [Operation.bodyCode, hBody]
  have hMem {use : Use} : use ∈ op.bodyCode.uses
      ↔ (m.fields = [] ∧ use = ⟨Source.override.binding, none⟩) ∨ use ∈ front
        ∨ ∃ field ∈ m.fields, ∃ source : Source, use = ⟨source.binding, some field⟩ := by
    rw [hCode]
    exact mem_uses_iff hUses
  -- a field is taken out of one record exactly if it is taken out of the other
  have hTaken (source : Source) :
      op.mutable = true ↔ ∃ field, ⟨source.binding, some field⟩ ∈ op.bodyCode.uses := by
    rw [hMutable, m.takes_iff]
    constructor
    · intro hFields
      obtain ⟨field, rest, hCons⟩ := List.exists_cons_of_ne_nil hFields
      have hField : field ∈ m.fields := by rw [hCons]; exact List.mem_cons_self
      exact ⟨field, hMem.mpr (.inr (.inr ⟨field, hField, source, rfl⟩))⟩
    · rintro ⟨field, hUse⟩
      rcases hMem.mp hUse with ⟨-, hUse⟩ | hUse | ⟨field', hField, -⟩
      · nomatch congrArg Use.taken hUse
      · nomatch congrArg Use.taken (hFront _ hUse)
      · exact List.ne_nil_of_mem hField
  have hUsed : ∃ use ∈ op.bodyCode.uses, use.binding = Source.override.binding := by
    cases hFields : m.fields with
    | nil => exact ⟨⟨Source.override.binding, none⟩, hMem.mpr (.inl ⟨hFields, rfl⟩), rfl⟩
    | cons field rest =>
      obtain ⟨field, hUse⟩ := (hTaken .override).mp
        (by rw [hMutable, m.takes_iff, hFields]; exact nofun)
      exact ⟨_, hUse, rfl⟩
  have hLiteralUses : (∃ use ∈ m.literalContent.uses, use.binding = Source.override.binding)
      ↔ m.fields ≠ [] := by
    simp only [uses_literalContent, List.mem_flatMap, mem_usesOf_iff]
    constructor
    · rintro ⟨use, ⟨field, hField, -⟩, -⟩
      exact List.ne_nil_of_mem hField
    · intro hFields
      obtain ⟨field, rest, hCons⟩ := List.exists_cons_of_ne_nil hFields
      exact ⟨_, ⟨field, by rw [hCons]; exact List.mem_cons_self, .override, rfl⟩, rfl⟩
  have hOnly : ∀ use ∈ op.bodyCode.uses,
      use.binding = Source.receiver.binding ∨ use.binding = Source.override.binding := by
    intro use hUse
    rcases hMem.mp hUse with ⟨-, rfl⟩ | hUse | ⟨field, -, source, rfl⟩
    · exact .inr rfl
    · exact .inl (congrArg Use.binding (hFront _ hUse))
    · cases source
      · exact .inl rfl
      · exact .inr rfl
  refine ⟨_, _, { declared := MethodCode.declared?_ofOperation op
                  receiver_binding := rfl
                  override_binding := rfl
                  override_byReference := rfl
                  override_mutable_iff := hTaken .override
                  receiver_mutable_iff := fun hValue => ?_
                  reference_mutable := fun hReference => ?_
                  override_used := hUsed
                  ignored_iff := ?_
                  literal := hLiteral
                  literal_uses_iff := hLiteralUses
                  uses_declared := hOnly }, decide_eq_true_iff⟩
  · have hPassed : decide (op.receiver = .reference) = false := hValue
    show (decide (op.receiver = .reference) || op.mutable) = true ↔ _
    rw [hPassed, Bool.false_or]
    exact hTaken .receiver
  · have hPassed : decide (op.receiver = .reference) = true := hReference
    show (decide (op.receiver = .reference) || op.mutable) = true
    rw [hPassed, Bool.true_or]
  · show MethodCode.ignoreTokens <:+: op.bodyCode ↔ _
    rw [hCode]
    exact ignoreTokens_infix_iff hLet

end FieldNames

/-! ## The bindings of an accepted declaration -/

/-- **Bindings are declared as they are used.**  The derived code of an accepted declaration is the
    record's own implementation and that of the trait.  The first has two methods, which both have
    two parameters, the receiver `self` and the override `from`:
    (1) the override is declared `mut` exactly if the body takes a field out of it, and so is a
        receiver that is passed by value; the receiver of the method that merges in place is
        `&mut self`;
    (2) the override is used in every body, by `let _ = from;` exactly if no field is merged, and
        otherwise by the record literal;
    (3) no other binding is used.
    A field or a label that is called like a binding is no use of it. -/
theorem bindings_declared_as_used {d : Declaration} {i : Implementation}
    (accepted : d.implementation = .ok i) :
    i.code.Splits i.inherentCode i.traitCode
      ∧ i.inherentCode.methods.map (·.name) = [mergeName, mergeInPlaceName]
      ∧ ∃ content, ∀ method ∈ i.inherentCode.methods, ∃ receiver override,
          method.BindsAsUsed d.optionalNames content receiver override
            ∧ (receiver.byReference = true ↔ method.name = mergeInPlaceName) := by
  obtain ⟨record, -, -, -, hMerge, hInPlace⟩ :=
    Declaration.extracted_of_implementation_eq_ok accepted
  rw [Implementation.methods_inherentCode, hMerge, hInPlace]
  refine ⟨i.code_splits, rfl, FieldNames.literalContent ⟨d.optionalNames, d.markerNames⟩,
    fun method hMethod => ?_⟩
  rcases List.mem_cons.mp hMethod with rfl | hMethod
  · obtain ⟨receiver, override, hBinds, hPassed⟩ := FieldNames.bindsAsUsed
      (.merging d.visibility ⟨d.optionalNames, d.markerNames⟩) [] rfl rfl
      (FieldNames.uses_result _) nofun (by simp [Statement.code, Entry.literalCode, Token.word])
      (FieldNames.recordLiterals_merging _ _)
    have hNames : Passing.value = .reference ↔ mergeName = mergeInPlaceName := by decide
    exact ⟨receiver, override, hBinds, hPassed.trans hNames⟩
  · obtain rfl := List.mem_singleton.mp hMethod
    obtain ⟨receiver, override, hBinds, hPassed⟩ := FieldNames.bindsAsUsed
      (.mergingInPlace d.visibility ⟨d.optionalNames, d.markerNames⟩)
        [⟨Source.receiver.binding, none⟩] rfl rfl
      (FieldNames.uses_assign _) (fun use => List.mem_singleton.mp)
      (by simp [Statement.code, Entry.literalCode, Token.word, Token.punct])
      (FieldNames.recordLiterals_mergingInPlace _ _)
    have hNames : Passing.reference = .reference ↔ mergeInPlaceName = mergeInPlaceName := by decide
    exact ⟨receiver, override, hBinds, hPassed.trans hNames⟩

/-- A record whose fields are called `from` and `take`, and one that has a marker called `from` and
no more. -/
theorem bindings_declared_as_used_of_odd_names :
    let option : Ty :=
      .path (.mk false [.mk ⟨"Option", false⟩ (.angled false [.type .infer] false)])
    let phantom : Ty := .path (.ofNames false [⟨"PhantomData", false⟩])
    let field := fun name ty => (⟨[], .inherited, ⟨name, false⟩, ty, default⟩ : Field)
    let full := Declaration.ofParts [] (.record [field "from" option, field "take" option])
    let empty := Declaration.ofParts [] (.record [field "from" phantom])
    let self : Ident := ⟨"self", false⟩
    let from_ : Ident := ⟨"from", false⟩
    ∃ i j, full.implementation = .ok i ∧ empty.implementation = .ok j
      ∧ i.inherentCode.methods.map (·.declared?)
        = [some [⟨self, false, true⟩, ⟨from_, false, true⟩],
          some [⟨self, true, true⟩, ⟨from_, false, true⟩]]
      ∧ j.inherentCode.methods.map (·.declared?)
        = [some [⟨self, false, false⟩, ⟨from_, false, false⟩],
          some [⟨self, true, true⟩, ⟨from_, false, false⟩]]
      ∧ i.merging.bodyCode.uses
          = [⟨from_, some from_⟩, ⟨self, some from_⟩, ⟨from_, some ⟨"take", false⟩⟩,
            ⟨self, some ⟨"take", false⟩⟩]
      ∧ j.mergingInPlace.bodyCode.uses = [⟨from_, none⟩, ⟨self, none⟩]
      ∧ (∀ method ∈ i.inherentCode.methods, ¬ MethodCode.ignoreTokens <:+: method.body)
      ∧ ∀ method ∈ j.inherentCode.methods, MethodCode.ignoreTokens <:+: method.body := by
  intro option phantom field full empty self from_
  obtain ⟨-, -, content, hFull⟩ := bindings_declared_as_used (d := full) rfl
  obtain ⟨-, -, content', hEmpty⟩ := bindings_declared_as_used (d := empty) rfl
  refine ⟨_, _, rfl, rfl, rfl, rfl, rfl, rfl, fun method hMethod hIgnored => ?_,
    fun method hMethod => ?_⟩
  · obtain ⟨receiver, override, hBinds, -⟩ := hFull method hMethod
    nomatch hBinds.ignored_iff.mp hIgnored
  · obtain ⟨receiver, override, hBinds, -⟩ := hEmpty method hMethod
    exact hBinds.ignored_iff.mpr rfl

end Overlay
