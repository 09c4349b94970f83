import Overlay.Proofs.DeclaredNames
import Overlay.Proofs.LiteralEntries

/-!
Whether methods can be generated for a record that was accepted.

The stages in front of generation look at the kind of declaration, at its settings and at the types
of its fields, never at their names.  The name of a field that was read from a text is no keyword,
or it is `_` (`SourceText.declaration?_names`).  A name that is no keyword can label a field of a
record literal (`Entry.merged_accepted`, `Entry.marker_accepted`), and `_` cannot
(`Entry.refused_of_not_isLabel`).

So generation fails for a record with a field called `_`, and for no other record
(`generation_fails_exactly_for_underscore`).
-/

namespace Overlay

/-! ## The names that reach generation -/

namespace Record

/-- Sorting the members invents no names. -/
theorem mem_of_fieldNamesFrom {record : Ident} {members : List Member} {m : FieldNames}
    (h : fieldNamesFrom record members = .ok m) {name : Ident}
    (hName : name ∈ m.fields ++ m.markers) :
    ∃ member ∈ members, member.name = name := by
  induction members generalizing m with
  | nil =>
    cases h
    nomatch hName
  | cons x rest ih =>
    have hStep : x.name = name ∨
        ∃ merge, fieldNamesFrom record rest = .ok merge ∧ name ∈ merge.fields ++ merge.markers := by
      rw [fieldNamesFrom] at h
      cases hRest : fieldNamesFrom record rest with
      | error e =>
        rw [hRest] at h
        split at h <;> nomatch h
      | ok merge =>
        rw [hRest] at h
        split at h
        · nomatch h
        · cases h
          rcases List.mem_cons.1 hName with hHere | hThere
          · exact Or.inl hHere.symm
          · exact Or.inr ⟨merge, rfl, hThere⟩
        · cases h
          rcases List.mem_cons.1 (List.perm_middle.mem_iff.1 hName) with hHere | hThere
          · exact Or.inl hHere.symm
          · exact Or.inr ⟨merge, rfl, hThere⟩
    rcases hStep with hHere | ⟨merge, hRest, hThere⟩
    · exact ⟨x, List.mem_cons_self, hHere⟩
    · obtain ⟨member, hMember, hName⟩ := ih hRest hThere
      exact ⟨member, List.mem_cons_of_mem x hMember, hName⟩

/-- The name of a member that was read from a text is no keyword, or an underscore. -/
theorem members_named {source : SourceText} {d : Declaration} {r : Record}
    (hSource : source.declaration? = some d) (hRecord : ofDeclaration d = .ok r) {member : Member}
    (hMember : member ∈ r.members) : member.name.isLabel = true ∨ member.name = .underscore := by
  have hNamed := SourceText.declaration?_names hSource
  rw [ofDeclaration] at hRecord
  cases hBody : d.body with
  | other kind =>
    rw [hBody] at hRecord
    nomatch hRecord
  | record fields =>
    rw [hBody] at hRecord hNamed
    cases hSettings : Settings.ofAttributes d.attributes with
    | error fault =>
      simp only [hSettings] at hRecord
      nomatch hRecord
    | ok settings =>
      simp only [hSettings] at hRecord
      cases hRecord
      obtain ⟨field, hField, rfl⟩ := List.mem_map.1 hMember
      exact hNamed field hField

/-- Where every name is a label or an underscore, the first one that cannot be mentioned is an
underscore. -/
theorem implement_of_named {r : Record} {m : FieldNames}
    (h : ∀ name ∈ m.fields ++ m.markers, name.isLabel = true ∨ name = .underscore) :
    (Ident.underscore ∈ m.fields ++ m.markers →
      r.implement m = .error (.unmentionable .underscore)) ∧
    (Ident.underscore ∉ m.fields ++ m.markers → ∃ i, r.implement m = .ok i) := by
  cases hFind : (m.fields ++ m.markers).find? (!·.isLabel) with
  | none =>
    have hLabels := List.find?_eq_none.1 hFind
    refine ⟨fun hUnderscore => absurd rfl (hLabels _ hUnderscore), fun _ => ?_⟩
    rw [implement, hFind]
    exact ⟨_, rfl⟩
  | some field =>
    have hField : field = .underscore := by
      rcases h field (List.mem_of_find?_eq_some hFind) with hLabel | hUnderscore
      · have hNot := List.find?_some hFind
        rw [hLabel] at hNot
        nomatch hNot
      · exact hUnderscore
    rw [hField] at hFind
    refine ⟨fun _ => ?_, fun hAbsent => absurd (List.mem_of_find?_eq_some hFind) hAbsent⟩
    rw [implement, hFind]

end Record

/-- The label of an entry is one of the names that it was made for. -/
theorem FieldNames.label_mem {m : FieldNames} {entry : Entry} (h : entry ∈ m.entries) :
    entry.label ∈ m.fields ++ m.markers ∧ (entry.label.isLabel = true → entry.Accepted) := by
  rcases List.mem_append.1 h with hField | hMarker
  · obtain ⟨field, hMem, rfl⟩ := List.mem_map.1 hField
    exact ⟨List.mem_append_left _ hMem, Entry.merged_accepted⟩
  · obtain ⟨field, hMem, rfl⟩ := List.mem_map.1 hMarker
    exact ⟨List.mem_append_right _ hMem, Entry.marker_accepted⟩

/-! ## Generation -/

/-- **Generation fails for an underscore, and for nothing else.**  A text is read as a declaration,
the declaration is a record, and its members are sorted: then methods are generated exactly if no
member is called `_`; otherwise the underscore is what cannot be mentioned.  It is the grammar that
makes this difference: of the entries that are to be written, it refuses as a field of a struct
literal those that the underscore labels, and it accepts all others. -/
theorem generation_fails_exactly_for_underscore {source : SourceText} {d : Declaration} {r : Record}
    {m : FieldNames} (hSource : source.declaration? = some d)
    (hRecord : Record.ofDeclaration d = .ok r) (hNames : r.fieldNames = .ok m) :
    ((∃ i, r.implement m = .ok i) ↔ Ident.underscore ∉ m.fields ++ m.markers) ∧
    (Ident.underscore ∈ m.fields ++ m.markers →
      r.implement m = .error (.unmentionable .underscore)) ∧
    ∀ entry ∈ m.entries, if entry.label = .underscore then entry.Refused else entry.Accepted := by
  have hNamed : ∀ name ∈ m.fields ++ m.markers, name.isLabel = true ∨ name = .underscore := by
    intro name hName
    obtain ⟨member, hMember, rfl⟩ := Record.mem_of_fieldNamesFrom hNames hName
    exact Record.members_named hSource hRecord hMember
  obtain ⟨hFails, hSucceeds⟩ := Record.implement_of_named (r := r) hNamed
  refine ⟨⟨fun ⟨i, hImplement⟩ hUnderscore => ?_, hSucceeds⟩, hFails, fun entry hEntry => ?_⟩
  · rw [hFails hUnderscore] at hImplement
    nomatch hImplement
  · obtain ⟨hLabel, hAccepted⟩ := FieldNames.label_mem hEntry
    by_cases hUnderscore : entry.label = .underscore
    · rw [if_pos hUnderscore]
      refine Entry.refused_of_not_isLabel ?_
      rw [hUnderscore]
      rfl
    · rw [if_neg hUnderscore]
      exact hAccepted ((hNamed _ hLabel).resolve_right hUnderscore)

/-- The stages of a text in front of generation, where they all succeed. -/
theorem exists_stages (source : SourceText) (m : FieldNames)
    (h : ((source.declaration?.bind fun d => (Record.ofDeclaration d).toOption).bind fun r =>
      r.fieldNames.toOption) = some m) :
    ∃ d r, source.declaration? = some d ∧ Record.ofDeclaration d = .ok r
      ∧ r.fieldNames = .ok m := by
  obtain ⟨r, hr, hm⟩ := Option.bind_eq_some_iff.1 h
  obtain ⟨d, hd, hr⟩ := Option.bind_eq_some_iff.1 hr
  have hOk {ε α : Type} {x : Except ε α} {a : α} (hx : x.toOption = some a) : x = .ok a := by
    cases x with
    | error e => nomatch hx
    | ok b =>
      cases hx
      rfl
  exact ⟨d, r, hd, hOk hr, hOk hm⟩

/-- A text with a raw name, and with a marker whose name comes from a fragment. -/
def oddNamesText : SourceText where
  text := "struct S \x7b r#type: Option<u8>, F: PhantomData \x7d"
  fragments := [("F", "union")]

theorem generation_of_odd_names :
    ∃ d r m, oddNamesText.declaration? = some d ∧ Record.ofDeclaration d = .ok r
      ∧ r.fieldNames = .ok m ∧ m = ⟨[⟨"type", true⟩], [⟨"union", false⟩]⟩
      ∧ ∃ i, r.implement m = .ok i := by
  obtain ⟨d, r, hd, hr, hm⟩ := exists_stages oddNamesText
    ⟨[⟨"type", true⟩], [⟨"union", false⟩]⟩ (by decide +kernel)
  exact ⟨d, r, _, hd, hr, hm, rfl, (generation_fails_exactly_for_underscore hd hr hm).1.2
    (by decide)⟩

/-- A text with one field, which is optional and called `_`. -/
def underscoreText : SourceText := ⟨"struct S \x7b _: Option<u8> \x7d", []⟩

/-- All checks in front of generation pass, and nothing is generated. -/
theorem underscore_not_implemented :
    ∃ d r m, underscoreText.declaration? = some d ∧ Record.ofDeclaration d = .ok r
      ∧ r.fieldNames = .ok m ∧ r.implement m = .error (.unmentionable .underscore) := by
  obtain ⟨d, r, hd, hr, hm⟩ := exists_stages underscoreText ⟨[.underscore], []⟩ (by decide +kernel)
  exact ⟨d, r, _, hd, hr, hm, rfl⟩

end Overlay
