import Mathlib.Algebra.Order.Group.Multiset
import Mathlib.Tactic.Abel
import Overlay.Proofs.LastLayer
import Overlay.Proofs.RecordLiterals

/-!
Derived code moves every content exactly once.

PROGRAM     the record literal of the derived methods, and the methods around it.  Contents are
            taken out of two records; what an `or` has no use for is dropped there and then
            (`Content.dropped`, `Entry.dropped`); records are dropped as a whole where one is
            assigned over, and where a method ends that was handed one (`Statement.losses`,
            `MethodCode.losses?`).
INVARIANT   CONSERVATION: at every point of an evaluation, what is built, what has been dropped and
            what is left in the two records are together the contents that there were at the start,
            each as often as it was (`Content.eval_conserves`, by induction on contents;
            `Entry.evalAll_conserves`, by induction on entries).  This asks nothing of the entries:
            no literal of this language duplicates or loses anything.
LITERAL     the literal of a record empties both of its records (`Entry.content_left`), so that at
            its end nothing is left; and what it drops is what the receiver holds where the override
            has something too (`Entry.dropped_merged`).

Counted as multisets, contents that are all different are then found at one place each: in one field
of the record that is made, or once among what is dropped.
-/

namespace Overlay

variable {V : Type}

/-! ## What records hold -/

namespace Slots

/-- Everything that the fields hold. -/
def contents (slots : Slots V) : Multiset V := ↑(slots.filterMap Prod.snd)

/-- What the receiver holds in a field that the override has something for. -/
def supersededAt (receiver override : Slots V) (field : Ident) : Option V :=
  if (override.content field).isSome then receiver.content field else none

/-- What the receiver holds in all such fields. -/
def superseded (receiver override : Slots V) : List V :=
  receiver.names.filterMap (receiver.supersededAt override)

theorem contents_cons (name : Ident) (held : Option V) (rest : Slots V) :
    contents ((name, held) :: rest) = ↑held.toList + contents rest := by
  cases held <;> rfl

/-- Taking a field moves its content out of the record. -/
theorem contents_take (field : Ident) (slots : Slots V) :
    ↑(take field slots).1.toList + (take field slots).2.contents = slots.contents := by
  induction slots with
  | nil => rfl
  | cons slot rest ih =>
    obtain ⟨name, held⟩ := slot
    rw [take, contents_cons]
    by_cases h : name = field
    · rw [if_pos h, contents_cons]
      show _ + (0 + _) = _
      rw [zero_add]
    · rw [if_neg h, contents_cons, ← ih]
      abel

theorem names_take (field : Ident) (slots : Slots V) :
    (take field slots).2.names = slots.names := by
  induction slots with
  | nil => rfl
  | cons slot rest ih =>
    obtain ⟨name, held⟩ := slot
    rw [take]
    by_cases h : name = field
    · rw [if_pos h]
      rfl
    · rw [if_neg h]
      exact congrArg (name :: ·) ih

theorem contents_absent (fields : List Ident) : (absent fields : Slots V).contents = 0 := by
  induction fields with
  | nil => rfl
  | cons field rest ih =>
    show contents ((field, none) :: absent rest) = 0
    rw [contents_cons, ih]
    rfl

/-- What a field holds is among the contents. -/
theorem mem_contents_of_content {slots : Slots V} {field : Ident} {v : V}
    (h : slots.content field = some v) : v ∈ slots.contents := by
  induction slots with
  | nil => nomatch h
  | cons slot rest ih =>
    obtain ⟨name, held⟩ := slot
    rw [content_cons] at h
    rw [contents_cons, Multiset.mem_add]
    by_cases hName : name = field
    · rw [if_pos hName] at h
      exact Or.inl (by rw [h]; exact List.mem_singleton.mpr rfl)
    · rw [if_neg hName] at h
      exact Or.inr (ih h)

/-- What is among the contents is held by a field, if fields have different names. -/
theorem exists_content_of_mem {slots : Slots V} (hNames : slots.names.Nodup) {v : V}
    (h : v ∈ slots.contents) : ∃ field, slots.content field = some v := by
  obtain ⟨⟨field, held⟩, hSlot, rfl⟩ := List.mem_filterMap.mp (Multiset.mem_coe.mp h)
  rw [eq_map_content slots hNames] at hSlot
  obtain ⟨name, -, hEq⟩ := List.mem_map.mp hSlot
  obtain ⟨rfl, hContent⟩ := Prod.mk.inj hEq
  exact ⟨name, hContent⟩

/-- Two fields do not hold the same, if all contents are different. -/
theorem content_injective {slots : Slots V} (hContents : slots.contents.Nodup) {f g : Ident} {v : V}
    (hf : slots.content f = some v) (hg : slots.content g = some v) : f = g := by
  induction slots with
  | nil => nomatch hf
  | cons slot rest ih =>
    obtain ⟨name, held⟩ := slot
    rw [contents_cons, Multiset.nodup_add] at hContents
    obtain ⟨-, hRest, hDisjoint⟩ := hContents
    -- a content of the first slot is not one of the others
    have hApart {other : Ident} (hHeld : held = some v)
        (hOther : content rest other = some v) : False :=
      Multiset.disjoint_left.mp hDisjoint (by rw [hHeld]; exact List.mem_singleton.mpr rfl)
        (mem_contents_of_content hOther)
    rw [content_cons] at hf hg
    by_cases hNameF : name = f <;> by_cases hNameG : name = g
    · exact hNameF.symm.trans hNameG
    · rw [if_pos hNameF] at hf
      rw [if_neg hNameG] at hg
      exact (hApart hf hg).elim
    · rw [if_neg hNameF] at hf
      rw [if_pos hNameG] at hg
      exact (hApart hg hf).elim
    · rw [if_neg hNameF] at hf
      rw [if_neg hNameG] at hg
      exact ih hRest hf hg

theorem mem_superseded {receiver override : Slots V} {v : V} :
    v ∈ receiver.superseded override ↔ ∃ field ∈ receiver.names,
      receiver.content field = some v ∧ override.content field ≠ none := by
  rw [superseded, List.mem_filterMap]
  refine exists_congr fun field => and_congr_right fun _ => ?_
  rw [supersededAt]
  cases override.content field <;> simp

end Slots

namespace Frame

/-- Everything that the two records hold. -/
def contents (frame : Frame V) : Multiset V := frame.receiver.contents + frame.override.contents

theorem contents_take (source : Source) (field : Ident) (frame : Frame V) :
    ↑(frame.take source field).1.toList + (frame.take source field).2.contents
      = frame.contents := by
  cases source with
  | receiver =>
    have h := Slots.contents_take field frame.receiver
    show _ + ((frame.receiver.take field).2.contents + frame.override.contents) = _
    rw [contents, ← h, ← add_assoc]
    rfl
  | override =>
    have h := Slots.contents_take field frame.override
    show _ + (frame.receiver.contents + (frame.override.take field).2.contents) = _
    rw [contents, ← h, add_left_comm]
    rfl

theorem names_take (source other : Source) (field : Ident) (frame : Frame V) :
    ((frame.take source field).2.slots other).names = (frame.slots other).names := by
  cases source <;> cases other
  · exact Slots.names_take field frame.receiver
  · rfl
  · rfl
  · exact Slots.names_take field frame.override

end Frame

/-! ## What is dropped on the way -/

/-- The contents that are dropped while a content is evaluated: an `or` drops its second part where
the first is present. -/
def Content.dropped : Content → Frame V → List V
  | .take _ _, _ => []
  | .or first second, frame =>
    let (preferred, rest) := first.eval frame
    let (fallback, _) := second.eval rest
    first.dropped frame ++ second.dropped rest ++ if preferred.isSome then fallback.toList else []

/-- The contents that are dropped while a record literal is evaluated. -/
def Entry.dropped : List Entry → Frame V → List V
  | [], _ => []
  | ⟨_, .marker⟩ :: rest, frame => dropped rest frame
  | ⟨_, .content c⟩ :: rest, frame => c.dropped frame ++ dropped rest (c.eval frame).2

/-- What is lost while a method runs. -/
inductive Loss (V : Type) where
  /-- A content on its own. -/
  | content (v : V)
  /-- A record as a whole, with what it holds then. -/
  | record (slots : Slots V)
deriving DecidableEq

/-- What statements lose: contents on their own, and the record that a literal is assigned over.  A
literal that is not assigned is the value of the method. -/
def Statement.losses : List Statement → Frame V → List (Loss V)
  | [], _ => []
  | .ignore _ :: rest, frame => losses rest frame
  | .result entries :: rest, frame =>
    (Entry.dropped entries frame).map .content ++ losses rest (Entry.evalAll entries frame).2
  | .assign entries :: rest, frame =>
    let (slots, left) := Entry.evalAll entries frame
    (Entry.dropped entries frame).map .content ++ .record left.receiver
      :: losses rest { left with receiver := slots }

/-- What a call of a method loses.  At its end the records go that were handed over to it: the
override, and then the receiver if it was passed by value. -/
def MethodCode.losses? (m : MethodCode) (receiver override : Slots V) : Option (List (Loss V)) :=
  match Statement.readAll? m.body, m.receiver? with
  | some body, some passing =>
    let left := (Statement.runAll body ⟨receiver, override⟩ none).1
    let handed := match passing with
      | .value => [.record left.override, .record left.receiver]
      | .reference => [.record left.override]
    some (Statement.losses body ⟨receiver, override⟩ ++ handed)
  | _, _ => none

/-- What a call of a record's method, by its name, loses. -/
def Code.losses? (inherent : Code) (name : Ident) (receiver override : Slots V) :
    Option (List (Loss V)) :=
  (inherent.method? name).bind (·.losses? receiver override)

/-! ## Conservation -/

/-- The second part of an `or` becomes the value or is dropped. -/
theorem or_add_dropped (preferred fallback : Option V) :
    (↑(preferred.or fallback).toList : Multiset V)
      + ↑(if preferred.isSome then fallback.toList else [])
      = ↑preferred.toList + ↑fallback.toList := by
  cases preferred with
  | none => exact add_comm _ _
  | some v => rfl

/-- **A content is moved and never copied**: it is the value, or it has been dropped, or it is still
where it was.  Induction on the content; the second part of an `or` starts from what the first has
left. -/
theorem Content.eval_conserves (c : Content) (frame : Frame V) :
    ↑(c.eval frame).1.toList + ↑(c.dropped frame) + (c.eval frame).2.contents = frame.contents := by
  induction c generalizing frame with
  | take source field =>
    show _ + 0 + _ = _
    rw [add_zero]
    exact frame.contents_take source field
  | or first second ihFirst ihSecond =>
    have hFirst := ihFirst frame
    rcases hEval : first.eval frame with ⟨preferred, middle⟩
    have hSecond := ihSecond middle
    rcases hEvalSecond : second.eval middle with ⟨fallback, left⟩
    rw [hEval] at hFirst
    rw [hEvalSecond] at hSecond
    simp only [eval, dropped, hEval, hEvalSecond, ← Multiset.coe_add]
    calc ↑(preferred.or fallback).toList + (↑(first.dropped frame) + ↑(second.dropped middle)
            + ↑(if preferred.isSome then fallback.toList else [])) + left.contents
        = (↑(preferred.or fallback).toList + ↑(if preferred.isSome then fallback.toList else []))
            + ↑(first.dropped frame) + (↑(second.dropped middle) + left.contents) := by abel
      _ = ↑preferred.toList + ↑(first.dropped frame)
            + (↑fallback.toList + ↑(second.dropped middle) + left.contents) := by
          rw [or_add_dropped]
          abel
      _ = frame.contents := by rw [hSecond, hFirst]

theorem Content.names_eval (c : Content) (frame : Frame V) (source : Source) :
    ((c.eval frame).2.slots source).names = (frame.slots source).names := by
  induction c generalizing frame with
  | take other field => exact frame.names_take other source field
  | or first second ihFirst ihSecond => exact (ihSecond _).trans (ihFirst frame)

namespace Entry

/-- **Conservation.**  Of any entries, what they build, what they drop and what they leave is what
there was. Induction on the entries. -/
theorem evalAll_conserves (entries : List Entry) (frame : Frame V) :
    (evalAll entries frame).1.contents + ↑(dropped entries frame)
      + (evalAll entries frame).2.contents = frame.contents := by
  induction entries generalizing frame with
  | nil =>
    show 0 + 0 + frame.contents = frame.contents
    rw [zero_add, zero_add]
  | cons e rest ih =>
    obtain ⟨label, value⟩ := e
    cases value with
    | marker => exact ih frame
    | content c =>
      have hContent := c.eval_conserves frame
      have hRest := ih (c.eval frame).2
      show Slots.contents ((label, (c.eval frame).1) :: (evalAll rest (c.eval frame).2).1)
          + ↑(c.dropped frame ++ dropped rest (c.eval frame).2)
          + (evalAll rest (c.eval frame).2).2.contents = frame.contents
      rw [← hContent, ← hRest, Slots.contents_cons, ← Multiset.coe_add]
      abel

theorem names_evalAll (entries : List Entry) (frame : Frame V) (source : Source) :
    ((evalAll entries frame).2.slots source).names = (frame.slots source).names := by
  induction entries generalizing frame with
  | nil => rfl
  | cons e rest ih =>
    obtain ⟨label, value⟩ := e
    cases value with
    | marker => exact ih frame
    | content c => exact (ih _).trans (c.names_eval frame source)

/-! ## The literal of a record -/

/-- What the initializer of a field drops: the receiver's content, where the override has one. -/
theorem dropped_merged_cons (field : Ident) (rest : List Entry) (frame : Frame V) :
    dropped (merged field :: rest) frame
      = (frame.receiver.supersededAt frame.override field).toList
        ++ dropped rest (frameAfter field frame) := by
  have hFirst : (frame.take .override field).1 = frame.override.content field :=
    frame.take_fst .override field
  rw [Slots.supersededAt, ← hFirst, ← frame.take_take_fst field]
  show ([] ++ [] ++ if (frame.take .override field).1.isSome
      then ((frame.take .override field).2.take .receiver field).1.toList else []) ++ _ = _
  cases (frame.take .override field).1 <;> rfl

theorem dropped_markers (markers : List Ident) (frame : Frame V) :
    dropped (markers.map marker) frame = [] := by
  induction markers with
  | nil => rfl
  | cons field markers ih => exact ih

/-- **What the literal drops**, field by field.  As in `evalAll_merged`, the fields still to come
have not been touched. -/
theorem dropped_merged (fields markers : List Ident) (h : fields.Nodup) (frame : Frame V) :
    dropped (fields.map merged ++ markers.map marker) frame
      = fields.filterMap (frame.receiver.supersededAt frame.override) := by
  induction fields generalizing frame with
  | nil => exact dropped_markers markers frame
  | cons field fields ih =>
    obtain ⟨hField, hFields⟩ := List.nodup_cons.mp h
    have hTail : dropped (fields.map merged ++ markers.map marker) (frameAfter field frame)
        = fields.filterMap (frame.receiver.supersededAt frame.override) := by
      rw [ih hFields]
      apply List.filterMap_congr
      intro g hg
      have hNe : field ≠ g := fun e => hField (e ▸ hg)
      have hOverride : (frameAfter field frame).override.content g = frame.override.content g :=
        content_frameAfter_of_ne hNe .override frame
      have hReceiver : (frameAfter field frame).receiver.content g = frame.receiver.content g :=
        content_frameAfter_of_ne hNe .receiver frame
      rw [Slots.supersededAt, hOverride, hReceiver, Slots.supersededAt]
    rw [List.map_cons, List.cons_append, dropped_merged_cons, hTail]
    cases hHead : frame.receiver.supersededAt frame.override field with
    | none => rw [List.filterMap_cons_none hHead]; rfl
    | some v => rw [List.filterMap_cons_some hHead]; rfl

theorem content_frameAfter_self (field : Ident) (source : Source) (frame : Frame V) :
    ((frameAfter field frame).slots source).content field = none := by
  rw [frameAfter, Frame.content_take, Frame.content_take]
  cases source <;> simp

/-- **The literal empties its fields in both records**, and leaves all others.  Induction on the
fields. -/
theorem content_left (fields markers : List Ident) (frame : Frame V) (source : Source) (g : Ident) :
    ((evalAll (fields.map merged ++ markers.map marker) frame).2.slots source).content g
      = if g ∈ fields then none else (frame.slots source).content g := by
  induction fields generalizing frame with
  | nil =>
    rw [List.map_nil, List.nil_append, evalAll_markers, if_neg List.not_mem_nil]
  | cons field fields ih =>
    rw [List.map_cons, List.cons_append, evalAll_merged_cons, ih]
    by_cases hField : field = g
    · subst hField
      rw [content_frameAfter_self, if_pos List.mem_cons_self, ite_self]
    · have hMem : g ∈ field :: fields ↔ g ∈ fields := by
        rw [List.mem_cons, or_iff_right (Ne.symm hField)]
      rw [content_frameAfter_of_ne hField]
      simp only [hMem]

/-- What evaluating a record literal on two values of a record comes to: the merged record is made,
both records are left without contents, and what is superseded is dropped.  At no point in between
is a content lost or held twice. -/
structure MovesOnce (d : Declaration) (entries : List Entry)
    (receiver override : Slots V) : Prop where
  evalAll_eq : evalAll entries ⟨receiver, override⟩
    = (receiver.overlay override, ⟨.absent d.optionalNames, .absent d.optionalNames⟩)
  dropped_eq : dropped entries ⟨receiver, override⟩ = receiver.superseded override
  conserved : ∀ k, (evalAll (entries.take k) ⟨receiver, override⟩).1.contents
      + ↑(dropped (entries.take k) ⟨receiver, override⟩)
      + (evalAll (entries.take k) ⟨receiver, override⟩).2.contents
    = receiver.contents + override.contents

end Entry

/-! ## Calls of derived methods -/

/-- A body that ends in `last` loses what `last` loses. -/
theorem FieldNames.losses_bodyWith (m : FieldNames) (last : Statement) (frame : Frame V) :
    Statement.losses (m.bodyWith last) frame = Statement.losses [last] frame := by
  unfold bodyWith
  split <;> rfl

namespace MethodCode

variable (visibility : Visibility) (m : FieldNames) (receiver override : Slots V)

/-- The method that returns a record loses what its literal drops, and both records at its end. -/
theorem losses?_merging :
    (ofOperation (.merging visibility m)).losses? receiver override
      = some ((Entry.dropped m.entries ⟨receiver, override⟩).map .content
          ++ [.record (Entry.evalAll m.entries ⟨receiver, override⟩).2.override,
            .record (Entry.evalAll m.entries ⟨receiver, override⟩).2.receiver]) := by
  have hBody : Statement.readAll? (ofOperation (.merging visibility m)).body
      = some (m.bodyWith (.result m.entries)) := m.readAll?_bodyWith _
  have hPassing : (ofOperation (.merging visibility m)).receiver? = some .value :=
    receiver?_ofOperation (.merging visibility m)
  simp only [losses?, hBody, hPassing, m.runAll_bodyWith, m.losses_bodyWith]
  simp [Statement.losses, Statement.runAll]

/-- The method that works in place loses what its literal drops, the record that it assigns over,
and the override at its end. -/
theorem losses?_mergingInPlace :
    (ofOperation (.mergingInPlace visibility m)).losses? receiver override
      = some ((Entry.dropped m.entries ⟨receiver, override⟩).map .content
          ++ [.record (Entry.evalAll m.entries ⟨receiver, override⟩).2.receiver,
            .record (Entry.evalAll m.entries ⟨receiver, override⟩).2.override]) := by
  have hBody : Statement.readAll? (ofOperation (.mergingInPlace visibility m)).body
      = some (m.bodyWith (.assign m.entries)) := m.readAll?_bodyWith _
  have hPassing : (ofOperation (.mergingInPlace visibility m)).receiver? = some .reference :=
    receiver?_ofOperation (.mergingInPlace visibility m)
  simp only [losses?, hBody, hPassing, m.runAll_bodyWith, m.losses_bodyWith]
  simp [Statement.losses, Statement.runAll]

end MethodCode

namespace Declaration

variable {d : Declaration} {m : FieldNames} {receiver override : Slots V}

/-- **The literal of a record leaves both records without contents.** -/
theorem frame_left (distinct : d.NamesDistinct) (hFields : m.fields = d.optionalNames)
    (hReceiver : receiver.IsValueOf d) (hOverride : override.IsValueOf d) :
    (Entry.evalAll m.entries ⟨receiver, override⟩).2
      = ⟨.absent d.optionalNames, .absent d.optionalNames⟩ := by
  have hEmptied (source : Source)
      (hSource : ((⟨receiver, override⟩ : Frame V).slots source).IsValueOf d) :
      (Entry.evalAll m.entries ⟨receiver, override⟩).2.slots source = .absent d.optionalNames := by
    have hValue : ((Entry.evalAll m.entries ⟨receiver, override⟩).2.slots source).IsValueOf d :=
      (Entry.names_evalAll m.entries ⟨receiver, override⟩ source).trans hSource
    refine Slots.eq_of_content_eq distinct hValue (Slots.isValueOf_absent d) fun field hField => ?_
    have hLeft := Entry.content_left m.fields m.markers ⟨receiver, override⟩ source field
    rw [if_pos (hFields ▸ hField)] at hLeft
    rw [Slots.content_absent]
    exact hLeft
  exact congr (congrArg Frame.mk (hEmptied .receiver hReceiver)) (hEmptied .override hOverride)

/-- **The literal of a record moves every content once.** -/
theorem movesOnce_entries (distinct : d.NamesDistinct) (hFields : m.fields = d.optionalNames)
    (hReceiver : receiver.IsValueOf d) (hOverride : override.IsValueOf d) :
    Entry.MovesOnce d m.entries receiver override := by
  have hNodup : m.fields.Nodup := hFields ▸ optionalNames_nodup distinct
  have hNames : m.fields = receiver.names := hFields.trans hReceiver.symm
  refine ⟨Prod.ext ?_ ?_, ?_, fun k => ?_⟩
  · exact mergedRecord_eq distinct hFields hReceiver override
  · exact frame_left distinct hFields hReceiver hOverride
  · rw [Slots.superseded, ← hNames]
    exact Entry.dropped_merged m.fields m.markers hNodup ⟨receiver, override⟩
  · exact Entry.evalAll_conserves (m.entries.take k) ⟨receiver, override⟩

end Declaration

/-- **Nothing is duplicated and nothing else is lost**: at the end of the literal, when nothing is
left, the merged record and what is dropped are together what both records held. -/
theorem Entry.MovesOnce.contents_overlay {d : Declaration} {entries : List Entry}
    {receiver override : Slots V} (h : MovesOnce d entries receiver override) :
    (receiver.overlay override).contents + ↑(receiver.superseded override)
      = receiver.contents + override.contents := by
  have hEnd := h.conserved entries.length
  have hLeft : (⟨.absent d.optionalNames, .absent d.optionalNames⟩ : Frame V).contents = 0 := by
    rw [Frame.contents, Slots.contents_absent, add_zero]
  rw [List.take_length, h.evalAll_eq, h.dropped_eq, hLeft, add_zero] at hEnd
  exact hEnd

/-- **Contents that are all different have one place each** in a merge: they are in one field of the
merged record, or they have been dropped once. -/
theorem Slots.one_place [DecidableEq V] {made : Slots V} {dropped : List V}
    (hNames : made.names.Nodup) (hIdentities : (made.contents + ↑dropped).Nodup) {v : V}
    (hv : v ∈ made.contents + ↑dropped) :
    ((∃! field, made.content field = some v) ∧ v ∉ dropped)
      ∨ ((∀ field, made.content field ≠ some v) ∧ dropped.count v = 1) := by
  obtain ⟨hMade, hDropped, hDisjoint⟩ := Multiset.nodup_add.mp hIdentities
  rcases Multiset.mem_add.mp hv with hHeld | hGone
  · obtain ⟨field, hField⟩ := exists_content_of_mem hNames hHeld
    refine Or.inl ⟨⟨field, hField, fun other hOther => content_injective hMade hOther hField⟩, ?_⟩
    exact fun hGone => Multiset.disjoint_left.mp hDisjoint hHeld (Multiset.mem_coe.mpr hGone)
  · refine Or.inr ⟨fun field hField => ?_, ?_⟩
    · exact Multiset.disjoint_left.mp hDisjoint (mem_contents_of_content hField) hGone
    · exact List.count_eq_one_of_mem (Multiset.coe_nodup.mp hDropped) (Multiset.mem_coe.mp hGone)

/-- **Derived code moves every content exactly once.**  For an accepted declaration whose fields
    have different names, and any two values of the record, all of the derived code is the record's
    own implementation and that of the trait, and
    (1) of both methods in the first, as their code is read back, evaluating the record literal
        makes the merged record, leaves the old receiver and the override without contents, and
        drops what the receiver held where the override had something too; up to every entry of it,
        what is built, dropped and left is together what the two records held;
    (2) a call loses these contents on their own and nothing else: the two records that go as a
        whole, the override and the receiver that was taken or assigned over, are without contents
        then;
    (3) the merged record holds, together with what is dropped, what the two records held;
    (4) what is dropped are the contents of the receiver in the fields that are present in both
        records;
    (5) if the contents of the two records are all different, as they are once each has its own
        identity, then each of them is either in exactly one field of the merged record and not
        dropped, or in none and dropped exactly once. -/
theorem derived_code_moves_once [DecidableEq V] {d : Declaration} {i : Implementation}
    (accepted : d.implementation = .ok i) (distinct : d.NamesDistinct) {receiver override : Slots V}
    (hReceiver : receiver.IsValueOf d) (hOverride : override.IsValueOf d) :
    i.code.Splits i.inherentCode i.traitCode
      ∧ (∀ name ∈ [mergeName, mergeInPlaceName],
        (∃ method literal entries, i.inherentCode.method? name = some method
            ∧ method.body.recordLiterals = [literal] ∧ Entry.readAll? literal = some entries
            ∧ Entry.MovesOnce d entries receiver override)
          ∧ i.inherentCode.call? name receiver override = some (receiver.overlay override)
          ∧ i.inherentCode.losses? name receiver override
            = some ((receiver.superseded override).map .content
                ++ [.record (.absent d.optionalNames), .record (.absent d.optionalNames)]))
      ∧ (receiver.overlay override).contents + ↑(receiver.superseded override)
        = receiver.contents + override.contents
      ∧ (∀ v, v ∈ receiver.superseded override ↔ ∃ field ∈ d.optionalNames,
          receiver.content field = some v ∧ override.content field ≠ none)
      ∧ ((receiver.contents + override.contents).Nodup →
        ∀ v ∈ receiver.contents + override.contents,
          ((∃! field, (receiver.overlay override).content field = some v)
              ∧ v ∉ receiver.superseded override)
            ∨ ((∀ field, (receiver.overlay override).content field ≠ some v)
              ∧ (receiver.superseded override).count v = 1)) := by
  obtain ⟨m, hFields, hMerge, hInPlace⟩ := Declaration.implementation_eq_ok accepted
  have hMoves := Declaration.movesOnce_entries distinct hFields hReceiver hOverride
  have hRead : Entry.readAll? m.literalContent = some m.entries :=
    Entry.readAll?_separated m.entries
  have hMade : m.mergedRecord receiver override = receiver.overlay override :=
    Declaration.mergedRecord_eq distinct hFields hReceiver override
  refine ⟨i.code_splits, List.forall_mem_cons.mpr ⟨?_, List.forall_mem_singleton.mpr ?_⟩,
    hMoves.contents_overlay, fun v => ?_, fun hIdentities v hv => ?_⟩
  · have hMethod := Implementation.method?_mergeName hMerge
    refine ⟨⟨_, _, _, hMethod, FieldNames.recordLiterals_merging d.visibility m, hRead,
      hMoves⟩, ?_, ?_⟩
    · rw [Implementation.call?_mergeName hMerge, hMade]
    · rw [Code.losses?, hMethod, Option.bind_some, MethodCode.losses?_merging, hMoves.dropped_eq,
        hMoves.evalAll_eq]
  · have hMethod := Implementation.method?_mergeInPlaceName hMerge hInPlace
    refine ⟨⟨_, _, _, hMethod, FieldNames.recordLiterals_mergingInPlace d.visibility m, hRead,
      hMoves⟩, ?_, ?_⟩
    · rw [Implementation.call?_mergeInPlaceName hMerge hInPlace, hMade]
    · rw [Code.losses?, hMethod, Option.bind_some, MethodCode.losses?_mergingInPlace,
        hMoves.dropped_eq, hMoves.evalAll_eq]
  · rw [Slots.mem_superseded, show receiver.names = d.optionalNames from hReceiver]
  · have hNames : (receiver.overlay override).names.Nodup := by
      rw [Slots.names_overlay]
      exact Declaration.nodup_names distinct hReceiver
    rw [← hMoves.contents_overlay] at hIdentities hv
    exact Slots.one_place hNames hIdentities hv

/-- Two values whose three contents are all different: the `1` that both fields `a` compete for is
dropped, the `2` is in one field, and both records are without contents when they go. -/
theorem derived_code_moves_once_in_pairs :
    let receiver := pairOf (some 1) (some 2)
    let override := pairOf (some 3) none
    ∃ i, pairDeclaration.implementation = .ok i ∧ pairDeclaration.NamesDistinct
      ∧ receiver.IsValueOf pairDeclaration ∧ override.IsValueOf pairDeclaration
      ∧ (receiver.contents + override.contents).Nodup
      ∧ i.inherentCode.losses? mergeInPlaceName receiver override
        = some [.content 1, .record (pairOf none none), .record (pairOf none none)]
      ∧ (receiver.superseded override).count 1 = 1
      ∧ ∃! field, (receiver.overlay override).content field = some 2 := by
  intro receiver override
  have hDistinct : pairDeclaration.NamesDistinct := by
    show ["a", "b"].Nodup
    decide
  have hIdentities : (receiver.contents + override.contents).Nodup := by decide
  obtain ⟨-, hMethods, -, -, hOnce⟩ :=
    derived_code_moves_once (d := pairDeclaration) (V := Nat) rfl hDistinct
      (show receiver.IsValueOf pairDeclaration from rfl)
      (show override.IsValueOf pairDeclaration from rfl)
  have hInPlace :=
    (hMethods mergeInPlaceName (List.mem_cons_of_mem _ (List.mem_singleton.mpr rfl))).2.2
  refine ⟨_, rfl, hDistinct, rfl, rfl, hIdentities, hInPlace, ?_, ?_⟩
  · rcases hOnce hIdentities 1 (by decide) with ⟨-, hKept⟩ | ⟨-, hGone⟩
    · exact absurd (by decide) hKept
    · exact hGone
  · rcases hOnce hIdentities 2 (by decide) with ⟨hHeld, -⟩ | ⟨-, hGone⟩
    · exact hHeld
    · exact absurd hGone (by decide)

end Overlay
