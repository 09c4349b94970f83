import Mathlib.Data.List.Nodup
import Overlay.Proofs.Acceptance
import Overlay.Proofs.GeneratedCode

/-!
Derived code means the documented merge.

PROGRAM        the derived methods, as they run on two records: every initializer of the record
               literal takes its field out of the override and out of the receiver, and leaves both
               absent.
SPECIFICATION  `Slots.overlay`: each field holds what the override holds where that is present, and
               what the receiver holds otherwise.

The initializers are destructive, so that a later one could find emptied what an earlier one has
taken. The invariant that rules this out is on contents alone: taking a field changes the content of
THAT field of THAT record and of nothing else (`Frame.content_take`).  Hence what is still to be
read of the two records is what they held at the start, as long as no name comes twice;
`evalAll_merged` carries this through the list of initializers.

From there the rest is bookkeeping.  The order of the literal, fields before markers, does not
matter because markers take nothing (`evalAll_markers`).  Both bodies evaluate the same literal
(`apply_merging`, `apply_mergingInPlace`, and `run?_merging`, `run?_mergingInPlace` for the code),
and the methods of the trait call these.  The headline is `derived_code_overlays`.
-/

namespace Overlay

variable {V : Type}

/-! ## Contents of record values -/

namespace Slots

/-- The names of the fields, in order. -/
def names (slots : Slots V) : List Ident := slots.map Prod.fst

/-- **The documented merge**: each field holds what `override` holds where that is present, and what
`receiver` holds otherwise. -/
def overlay (receiver override : Slots V) : Slots V :=
  receiver.map fun (field, held) =>
    match override.content field with
    | some v => (field, some v)
    | none => (field, held)

@[simp]
theorem content_nil (field : Ident) : content ([] : Slots V) field = none := rfl

theorem content_cons (name : Ident) (held : Option V) (rest : Slots V) (field : Ident) :
    content ((name, held) :: rest) field = if name = field then held else content rest field := by
  unfold content
  by_cases h : name = field
  · rw [if_pos h, h, List.lookup_cons_self]
  · have hBeq : (field == name) = false := beq_eq_false_iff_ne.mpr fun e => h e.symm
    rw [if_neg h, List.lookup_cons, hBeq]

/-- Taking a field gives its content. -/
theorem take_fst (field : Ident) (slots : Slots V) :
    (take field slots).1 = slots.content field := by
  induction slots with
  | nil => rfl
  | cons slot rest ih =>
    obtain ⟨name, held⟩ := slot
    rw [content_cons, take]
    by_cases h : name = field
    · rw [if_pos h, if_pos h]
    · rw [if_neg h, if_neg h, ← ih]

/-- Taking a field empties it, and no other. -/
theorem content_take (field other : Ident) (slots : Slots V) :
    (take field slots).2.content other = if field = other then none else slots.content other := by
  induction slots with
  | nil => rw [take, content_nil, ite_self]
  | cons slot rest ih =>
    obtain ⟨name, held⟩ := slot
    rw [take, content_cons]
    by_cases h : name = field
    · rw [if_pos h, content_cons, h]
      by_cases hOther : field = other
      · rw [if_pos hOther, if_pos hOther]
      · rw [if_neg hOther, if_neg hOther, if_neg hOther]
    · rw [if_neg h]
      show content ((name, held) :: (take field rest).2) other = _
      rw [content_cons, ih]
      by_cases hOther : name = other
      · rw [if_pos hOther, if_pos hOther, if_neg fun e => h (hOther.trans e.symm)]
      · rw [if_neg hOther, if_neg hOther]

/-- A value whose fields have different names is the list of its contents. -/
theorem eq_map_content (slots : Slots V) (h : slots.names.Nodup) :
    slots = slots.names.map fun field => (field, slots.content field) := by
  induction slots with
  | nil => rfl
  | cons slot rest ih =>
    obtain ⟨name, held⟩ := slot
    obtain ⟨hName, hRest⟩ := List.nodup_cons.mp h
    have hTail : (names rest).map (fun field => (field, content ((name, held) :: rest) field))
        = rest := by
      rw [List.map_congr_left (g := fun field => (field, content rest field)), ← ih hRest]
      intro field hField
      rw [content_cons, if_neg fun e => hName (by rw [e]; exact hField)]
    show _ = (name, content ((name, held) :: rest) name) :: _
    rw [content_cons, if_pos rfl]
    exact congrArg _ hTail.symm

/-- The merge, field by field. -/
theorem overlay_eq_map_names (receiver override : Slots V) (h : receiver.names.Nodup) :
    receiver.overlay override
      = receiver.names.map fun field =>
          (field, (override.content field).or (receiver.content field)) := by
  have hReceiver := eq_map_content receiver h
  rw [overlay]
  conv_lhs => rw [hReceiver]
  rw [List.map_map]
  apply List.map_congr_left
  intro field _
  show (match override.content field with
    | some v => (field, some v)
    | none => (field, receiver.content field)) = _
  cases override.content field <;> rfl

end Slots

/-! ## What evaluation takes, and what it leaves -/

namespace Frame

/-- One of the two records. -/
def slots (frame : Frame V) : Source → Slots V
  | .receiver => frame.receiver
  | .override => frame.override

theorem take_fst (source : Source) (field : Ident) (frame : Frame V) :
    (frame.take source field).1 = (frame.slots source).content field := by
  cases source
  · exact Slots.take_fst field frame.receiver
  · exact Slots.take_fst field frame.override

/-- **Taking is local**: it empties one field of one record, and leaves all other contents. -/
theorem content_take (source other : Source) (field g : Ident) (frame : Frame V) :
    ((frame.take source field).2.slots other).content g
      = if source = other ∧ field = g then none else (frame.slots other).content g := by
  cases source <;> cases other
  · show (frame.receiver.take field).2.content g = _
    rw [Slots.content_take]
    by_cases h : field = g
    · rw [if_pos h, if_pos ⟨rfl, h⟩]
    · rw [if_neg h, if_neg fun e => h e.2]
      rfl
  · rw [if_neg fun e => nomatch e.1]
    rfl
  · rw [if_neg fun e => nomatch e.1]
    rfl
  · show (frame.override.take field).2.content g = _
    rw [Slots.content_take]
    by_cases h : field = g
    · rw [if_pos h, if_pos ⟨rfl, h⟩]
    · rw [if_neg h, if_neg fun e => h e.2]
      rfl

/-- A field that is taken out of the override is still in the receiver. -/
theorem take_take_fst (field : Ident) (frame : Frame V) :
    ((frame.take .override field).2.take .receiver field).1 = frame.receiver.content field := by
  rw [take_fst, content_take, if_neg fun e => nomatch e.1]
  rfl

end Frame

namespace Entry

/-- What the initializer of a field leaves behind: the field is gone from both records. -/
def frameAfter (field : Ident) (frame : Frame V) : Frame V :=
  ((frame.take .override field).2.take .receiver field).2

theorem content_frameAfter_of_ne {field g : Ident} (h : field ≠ g) (source : Source)
    (frame : Frame V) :
    ((frameAfter field frame).slots source).content g = (frame.slots source).content g := by
  rw [frameAfter, Frame.content_take, if_neg fun e => h e.2, Frame.content_take,
    if_neg fun e => h e.2]

/-- One initializer: the override's content where it is present, the receiver's otherwise. -/
theorem evalAll_merged_cons (field : Ident) (rest : List Entry) (frame : Frame V) :
    evalAll (merged field :: rest) frame
      = ((field, (frame.override.content field).or (frame.receiver.content field))
            :: (evalAll rest (frameAfter field frame)).1,
          (evalAll rest (frameAfter field frame)).2) := by
  have hFirst : (frame.take .override field).1 = frame.override.content field :=
    frame.take_fst .override field
  rw [← hFirst, ← frame.take_take_fst field]
  rfl

/-- Markers take nothing and hold nothing. -/
theorem evalAll_markers (markers : List Ident) (frame : Frame V) :
    evalAll (markers.map marker) frame = ([], frame) := by
  induction markers with
  | nil => rfl
  | cons field markers ih => exact ih

/-- **The literal gives every field its merged content.**  Induction on the fields; the frame
varies, and what carries through is that the fields still to come have not been touched. -/
theorem evalAll_merged (fields markers : List Ident) (h : fields.Nodup) (frame : Frame V) :
    (evalAll (fields.map merged ++ markers.map marker) frame).1
      = fields.map fun field =>
          (field, (frame.override.content field).or (frame.receiver.content field)) := by
  induction fields generalizing frame with
  | nil => rw [List.map_nil, List.nil_append, evalAll_markers]; rfl
  | cons field fields ih =>
    obtain ⟨hField, hFields⟩ := List.nodup_cons.mp h
    have hUntouched : ∀ g ∈ fields, field ≠ g := fun g hg e => hField (e ▸ hg)
    have hTail : (evalAll (fields.map merged ++ markers.map marker) (frameAfter field frame)).1
        = fields.map fun g => (g, (frame.override.content g).or (frame.receiver.content g)) := by
      rw [ih hFields]
      apply List.map_congr_left
      intro g hg
      have hOverride := content_frameAfter_of_ne (hUntouched g hg) .override frame
      have hReceiver := content_frameAfter_of_ne (hUntouched g hg) .receiver frame
      exact congrArg (Prod.mk g) (congr (congrArg Option.or hOverride) hReceiver)
    rw [List.map_cons, List.cons_append, evalAll_merged_cons, List.map_cons, hTail]

end Entry

/-! ## Running the two methods -/

/-- A body that ends in `last` does what `last` does: an override that is only mentioned stays. -/
theorem FieldNames.runAll_bodyWith (m : FieldNames) (last : Statement) (frame : Frame V) :
    Statement.runAll (m.bodyWith last) frame none = Statement.runAll [last] frame none := by
  unfold bodyWith
  split <;> rfl

/-- A body that ends in `last` reads back from its code. -/
theorem FieldNames.readAll?_bodyWith (m : FieldNames) (last : Statement) :
    Statement.readAll? ((m.bodyWith last).flatMap Statement.code) = some (m.bodyWith last) := by
  unfold bodyWith
  apply Statement.readAll?_code
  intro s hs
  split at hs
  · nomatch hs
  · rw [List.mem_singleton] at hs
    rw [hs]
    rfl

/-- The record that both methods make: the value of their literal. -/
def FieldNames.mergedRecord (m : FieldNames) (receiver override : Slots V) : Slots V :=
  (Entry.evalAll m.entries ⟨receiver, override⟩).1

namespace Operation

theorem apply_merging (visibility : Visibility) (m : FieldNames) (receiver override : Slots V) :
    (merging visibility m).apply receiver override = m.mergedRecord receiver override := by
  have h : (merging visibility m).run receiver override
      = Statement.runAll [.result m.entries] ⟨receiver, override⟩ none :=
    m.runAll_bodyWith (.result m.entries) ⟨receiver, override⟩
  rw [apply, h]
  rfl

theorem apply_mergingInPlace (visibility : Visibility) (m : FieldNames)
    (receiver override : Slots V) :
    (mergingInPlace visibility m).apply receiver override = m.mergedRecord receiver override := by
  have h : (mergingInPlace visibility m).run receiver override
      = Statement.runAll [.assign m.entries] ⟨receiver, override⟩ none :=
    m.runAll_bodyWith (.assign m.entries) ⟨receiver, override⟩
  rw [apply, h]
  rfl

end Operation

namespace MethodCode

/-- The code of the method that returns a record, as it runs. -/
theorem run?_merging (visibility : Visibility) (m : FieldNames) (receiver override : Slots V) :
    (ofOperation (.merging visibility m)).run? receiver override
      = some (m.mergedRecord receiver override) := by
  have hBody : Statement.readAll? (ofOperation (.merging visibility m)).body
      = some (m.bodyWith (.result m.entries)) := m.readAll?_bodyWith _
  have hPassing : (ofOperation (.merging visibility m)).receiver? = some .value :=
    receiver?_ofOperation (.merging visibility m)
  simp only [run?, hBody, hPassing, m.runAll_bodyWith]
  rfl

/-- The code of the method that works in place, as it runs. -/
theorem run?_mergingInPlace (visibility : Visibility) (m : FieldNames)
    (receiver override : Slots V) :
    (ofOperation (.mergingInPlace visibility m)).run? receiver override
      = some (m.mergedRecord receiver override) := by
  have hBody : Statement.readAll? (ofOperation (.mergingInPlace visibility m)).body
      = some (m.bodyWith (.assign m.entries)) := m.readAll?_bodyWith _
  have hPassing : (ofOperation (.mergingInPlace visibility m)).receiver? = some .reference :=
    receiver?_ofOperation (.mergingInPlace visibility m)
  simp only [run?, hBody, hPassing, m.runAll_bodyWith]
  rfl

end MethodCode

/-! ## Calling derived code -/

/-- The name of the method that returns the merged record. -/
def mergeName : Ident := ⟨"spread", false⟩

/-- The name of the method that merges in place. -/
def mergeInPlaceName : Ident := ⟨"mutating_spread", false⟩

namespace Implementation

variable {i : Implementation} {visibility : Visibility} {m : FieldNames}

theorem method?_mergeName (h : i.merging = .merging visibility m) :
    i.inherentCode.method? mergeName = some (.ofOperation (.merging visibility m)) := by
  rw [Code.method?, methods_inherentCode, h]
  rfl

theorem method?_mergeInPlaceName (h : i.merging = .merging visibility m)
    (hPlace : i.mergingInPlace = .mergingInPlace visibility m) :
    i.inherentCode.method? mergeInPlaceName
      = some (.ofOperation (.mergingInPlace visibility m)) := by
  rw [Code.method?, methods_inherentCode, h, hPlace]
  rfl

theorem call?_mergeName (h : i.merging = .merging visibility m) (receiver override : Slots V) :
    i.inherentCode.call? mergeName receiver override = some (m.mergedRecord receiver override) := by
  rw [Code.call?, method?_mergeName h]
  exact MethodCode.run?_merging visibility m receiver override

theorem call?_mergeInPlaceName (h : i.merging = .merging visibility m)
    (hPlace : i.mergingInPlace = .mergingInPlace visibility m) (receiver override : Slots V) :
    i.inherentCode.call? mergeInPlaceName receiver override
      = some (m.mergedRecord receiver override) := by
  rw [Code.call?, method?_mergeInPlaceName h hPlace]
  exact MethodCode.run?_mergingInPlace visibility m receiver override

/-- Where the trait has the method that forwards to an operation, and the record that operation, a
call of the first is a call of the second. -/
theorem traitCall?_of_forwardMethod (op : Operation)
    (hTrait : i.traitCode.method? ⟨op.name, false⟩ = some (forwardMethod op))
    (hOwn : i.inherentCode.method? ⟨op.name, false⟩ = some (.ofOperation op))
    (receiver override : Slots V) :
    Code.traitCall? i.inherentCode i.traitCode ⟨op.name, false⟩ receiver override
      = i.inherentCode.call? ⟨op.name, false⟩ receiver override := by
  rw [Code.traitCall?, hTrait, Option.bind_some, target?_forwardMethod, Option.bind_some, hOwn,
    Option.bind_some, if_pos (callsAlike_forwardMethod op), Code.call?, hOwn, Option.bind_some]

/-- A method of the trait does what the record's method of the same name does. -/
theorem traitCall?_eq_call? (h : i.merging = .merging visibility m)
    (hPlace : i.mergingInPlace = .mergingInPlace visibility m) (receiver override : Slots V) :
    Code.traitCall? i.inherentCode i.traitCode mergeName receiver override
        = i.inherentCode.call? mergeName receiver override
      ∧ Code.traitCall? i.inherentCode i.traitCode mergeInPlaceName receiver override
        = i.inherentCode.call? mergeInPlaceName receiver override := by
  have hMerge : i.traitCode.method? mergeName = some (forwardMethod (.merging visibility m)) := by
    rw [Code.method?, methods_traitCode, h]
    rfl
  have hInPlace : i.traitCode.method? mergeInPlaceName
      = some (forwardMethod (.mergingInPlace visibility m)) := by
    rw [Code.method?, methods_traitCode, h, hPlace]
    rfl
  constructor
  · exact traitCall?_of_forwardMethod (.merging visibility m) hMerge (method?_mergeName h)
      receiver override
  · exact traitCall?_of_forwardMethod (.mergingInPlace visibility m) hInPlace
      (method?_mergeInPlaceName h hPlace) receiver override

/-- **The four methods of a derived record are one function.** -/
theorem subject_eq (h : i.merging = .merging visibility m)
    (hPlace : i.mergingInPlace = .mergingInPlace visibility m) :
    (i.subject : Subject (Slots V))
      = ⟨⟨m.mergedRecord, m.mergedRecord⟩, ⟨m.mergedRecord, m.mergedRecord⟩⟩ := by
  have hMerge : (i.merging.apply : Slots V → Slots V → Slots V) = m.mergedRecord := by
    rw [h]
    funext receiver override
    exact Operation.apply_merging visibility m receiver override
  have hInPlace : (i.mergingInPlace.apply : Slots V → Slots V → Slots V) = m.mergedRecord := by
    rw [hPlace]
    funext receiver override
    exact Operation.apply_mergingInPlace visibility m receiver override
  have hForward : (i.forwarded i.merging : Slots V → Slots V → Slots V) = i.merging.apply := by
    funext receiver override
    rw [forwarded, method?, h, hPlace]
    rfl
  have hForwardInPlace : (i.forwarded i.mergingInPlace : Slots V → Slots V → Slots V)
      = i.mergingInPlace.apply := by
    funext receiver override
    rw [forwarded, method?, h, hPlace]
    rfl
  rw [subject, hForward, hForwardInPlace, hMerge, hInPlace]

end Implementation

/-! ## Derived code and the documented merge -/

namespace Declaration

/-- The declared fields; what is no record has none. -/
def fields (d : Declaration) : List Field :=
  match d.body with
  | .record fields => fields
  | .other _ => []

/-- The names of the optional fields, in the order of declaration. -/
def optionalNames (d : Declaration) : List Ident :=
  (d.fields.filter fun f => Shape.of f.ty = .optional).map (·.name)

/-- No two fields have the same name, with or without `r#`. -/
def NamesDistinct (d : Declaration) : Prop := (d.fields.map (·.name.name)).Nodup

theorem optionalNames_nodup {d : Declaration} (h : d.NamesDistinct) : d.optionalNames.Nodup := by
  have hNames : (d.fields.map (·.name)).Nodup := by
    apply List.Nodup.of_map Ident.name
    rw [List.map_map]
    exact h
  exact hNames.sublist ((List.filter_sublist).map _)

/-- What an accepted declaration is implemented with: its operations merge the optional fields. -/
theorem implementation_eq_ok {d : Declaration} {i : Implementation}
    (accepted : d.implementation = .ok i) :
    ∃ m : FieldNames, m.fields = d.optionalNames ∧ i.merging = .merging d.visibility m
      ∧ i.mergingInPlace = .mergingInPlace d.visibility m := by
  obtain ⟨fields, settings, hBody, -, -, hImplement⟩ := stages_of_implementation_eq_ok accepted
  have hi := Record.implement_eq_ok hImplement
  refine ⟨.ofMembers (fields.map Member.ofField), ?_, by rw [hi]; rfl, by rw [hi]; rfl⟩
  rw [optionalNames, Declaration.fields, hBody, FieldNames.ofMembers, List.filter_map, List.map_map]
  rfl

end Declaration

/-- A value of the declared record: it has one slot for each optional field, in the order of
declaration.  A marker holds nothing and has no slot. -/
def Slots.IsValueOf (slots : Slots V) (d : Declaration) : Prop := slots.names = d.optionalNames

theorem Slots.names_overlay (receiver override : Slots V) :
    (receiver.overlay override).names = receiver.names := by
  rw [names, overlay, List.map_map]
  apply List.map_congr_left
  intro slot _
  show (match override.content slot.1 with
    | some v => (slot.1, some v)
    | none => (slot.1, slot.2)).1 = slot.1
  cases override.content slot.1 <;> rfl

/-- The literal of an accepted record makes the documented merge of any two of its values. -/
theorem FieldNames.mergedRecord_eq_overlay {m : FieldNames} {receiver : Slots V}
    (hFields : m.fields = receiver.names) (h : receiver.names.Nodup) (override : Slots V) :
    m.mergedRecord receiver override = receiver.overlay override := by
  have hEval := Entry.evalAll_merged m.fields m.markers (hFields ▸ h)
    (⟨receiver, override⟩ : Frame V)
  rw [Slots.overlay_eq_map_names receiver override h, ← hFields]
  exact hEval

/-- **Derived code means the documented merge.**  For an accepted declaration whose fields have
    different names, and any two values of the record, all of the derived code is the record's own
    implementation and that of the trait, and
    (1) calling either method of the first, as it is read back token by token, leaves the caller
        with the record that holds the override's content where that is present and the receiver's
        otherwise;
    (2) so does calling a method of the trait, which hands its arguments on;
    (3) and so do the derived operations that sessions run. -/
theorem derived_code_overlays {d : Declaration} {i : Implementation}
    (accepted : d.implementation = .ok i) (distinct : d.NamesDistinct)
    (receiver override : Slots V) (hReceiver : receiver.IsValueOf d) :
    i.code.Splits i.inherentCode i.traitCode
      ∧ (receiver.overlay override).IsValueOf d
      ∧ i.inherentCode.call? mergeName receiver override = some (receiver.overlay override)
      ∧ i.inherentCode.call? mergeInPlaceName receiver override = some (receiver.overlay override)
      ∧ Code.traitCall? i.inherentCode i.traitCode mergeName receiver override
        = some (receiver.overlay override)
      ∧ Code.traitCall? i.inherentCode i.traitCode mergeInPlaceName receiver override
        = some (receiver.overlay override)
      ∧ i.subject.inherent.merge receiver override = receiver.overlay override
      ∧ i.subject.inherent.mergeInPlace receiver override = receiver.overlay override
      ∧ i.subject.trait.merge receiver override = receiver.overlay override
      ∧ i.subject.trait.mergeInPlace receiver override = receiver.overlay override := by
  obtain ⟨m, hFields, hMerge, hInPlace⟩ := Declaration.implementation_eq_ok accepted
  have hNodup : receiver.names.Nodup := by
    rw [hReceiver]
    exact Declaration.optionalNames_nodup distinct
  have hRecord := FieldNames.mergedRecord_eq_overlay (hFields.trans hReceiver.symm) hNodup override
  have hCall := Implementation.call?_mergeName hMerge receiver override
  have hCallInPlace := Implementation.call?_mergeInPlaceName hMerge hInPlace receiver override
  obtain ⟨hTrait, hTraitInPlace⟩ :=
    Implementation.traitCall?_eq_call? hMerge hInPlace receiver override
  rw [hRecord] at hCall hCallInPlace
  rw [Implementation.subject_eq hMerge hInPlace]
  refine ⟨i.code_splits, ?_, hCall, hCallInPlace, hTrait.trans hCall,
    hTraitInPlace.trans hCallInPlace, hRecord, hRecord, hRecord, hRecord⟩
  rw [Slots.IsValueOf, Slots.names_overlay]
  exact hReceiver

/-- A record with fields called `from`, `take` (a marker) and `r#type`: the override's second field
is present although it holds an absent value, and wins. -/
theorem derived_code_overlays_of_odd_names :
    let option : Ty :=
      .path (.mk false [.mk ⟨"Option", false⟩ (.angled false [.type .infer] false)])
    let phantom : Ty := .paren (.path (.ofNames true [⟨"PhantomData", false⟩]))
    let field := fun name ty => (⟨[], .inherited, name, ty, default⟩ : Field)
    let d := Declaration.ofParts [] (.record [field ⟨"from", false⟩ option,
      field ⟨"take", false⟩ phantom, field ⟨"type", true⟩ option])
    let receiver : Slots (Option Nat) :=
      [(⟨"from", false⟩, some (some 1)), (⟨"type", true⟩, some (some 7))]
    let override : Slots (Option Nat) := [(⟨"from", false⟩, none), (⟨"type", true⟩, some none)]
    ∃ i, d.implementation = .ok i ∧ d.NamesDistinct ∧ receiver.IsValueOf d
      ∧ i.inherentCode.call? mergeName receiver override
        = some [(⟨"from", false⟩, some (some 1)), (⟨"type", true⟩, some none)]
      ∧ Code.traitCall? i.inherentCode i.traitCode mergeInPlaceName receiver override
        = some [(⟨"from", false⟩, some (some 1)), (⟨"type", true⟩, some none)] := by
  intro option phantom field d receiver override
  have hDistinct : d.NamesDistinct := by
    show ["from", "take", "type"].Nodup
    decide
  have hMerge := derived_code_overlays (d := d) rfl hDistinct receiver override rfl
  exact ⟨_, rfl, hDistinct, rfl, hMerge.2.2.1, hMerge.2.2.2.2.2.1⟩

end Overlay
