import Overlay.Proofs.Essentials

/-!
The headers of the two derived implementations.

A header binds the generic parameters of the record and applies the record to them:
`impl<'a, T: Clone> Wrapper<'a, T> where …`.  The two lists are printed apart, each with the
lifetimes in front, each item with a comma of its own; were they to disagree in number or in order,
a parameter would silently take the place of another.

1. **Lists**: however the parameters were written, a list of them is printed as its items with one
   comma between any two (`lifetimesFirst_eq_separated`), the lifetimes before all others and the
   order otherwise kept.  Where the last comma goes depends on the kinds of the parameters only, not
   on how they are spelled.
2. **Names**: what is bound and what is applied is read from the code.  `Code.appliedNames?` reads
   the arguments of the record, `Code.boundName?` the name that an item binds, behind its attributes
   and in front of its bounds.
3. **Defaults**: the items that are bound are the parameters as they would be declared without a
   default (`GenericParam.withoutDefault`).
-/

namespace Overlay

/-! ## Lists with the lifetimes in front -/

namespace Code

/-- Items that each have a comma behind them. -/
def commaed (items : List Code) : Code := items.flatMap (· ++ [.punct ','])

theorem separated_concat (trailing : Bool) (items : List Code) (last : Code) :
    separated (.punct ',') trailing (items ++ [last])
      = commaed items ++ withComma last trailing := by
  induction items with
  | nil => rfl
  | cons item items ih =>
    obtain ⟨next, rest, hCons⟩ := List.exists_cons_of_ne_nil (List.concat_ne_nil last items)
    rw [List.cons_append, hCons, separated, ← hCons, ih]
    simp only [commaed, List.flatMap_cons, List.append_assoc, List.cons_append, List.nil_append]

theorem separated_true (items : List Code) : separated (.punct ',') true items = commaed items := by
  rcases List.eq_nil_or_concat items with rfl | ⟨items, last, rfl⟩
  · rfl
  · rw [List.concat_eq_append, separated_concat, commaed, commaed, List.flatMap_append,
      List.flatMap_singleton]
    rfl

/-- An item as it was written in front of others. -/
def followed (item : Bool × Code) : Bool × Code × Bool := (item.1, item.2, true)

theorem withCommas_concat (trailing : Bool) (items : List (Bool × Code)) (last : Bool × Code) :
    withCommas trailing (items ++ [last]) = items.map followed ++ [(last.1, last.2, trailing)] := by
  induction items with
  | nil => rfl
  | cons item items ih =>
    obtain ⟨next, rest, hCons⟩ := List.exists_cons_of_ne_nil (List.concat_ne_nil last items)
    rw [List.cons_append, hCons, withCommas, ← hCons, ih]
    rfl

/-- The items in the order of printing. -/
def lifetimesBefore (items : List (Bool × Code)) : List Code :=
  (items.filter (·.1) ++ items.filter (!·.1)).map (·.2)

/-- Whether a printed list ends in a comma: where the last item that was written is moved to the
front, the one that comes to the end brings its comma along. -/
def endsInComma (marks : List Bool) (trailing : Bool) : Bool :=
  trailing || (marks.getLast? = some true && marks.any (!·))

/-- Lifetimes in front of other items, each with the comma that was written behind it. -/
def regrouped (lifetimes others : List (Bool × Code × Bool)) : Code :=
  let apart := match lifetimes.getLast? with
    | some (_, _, comma) => comma || others.isEmpty
    | none => true
  lifetimes.flatMap (fun item => withComma item.2.1 item.2.2)
    ++ (if apart then [] else [.punct ','])
    ++ others.flatMap (fun item => withComma item.2.1 item.2.2)

theorem flatMap_followed (items : List (Bool × Code)) :
    (items.map followed).flatMap (fun item => withComma item.2.1 item.2.2)
      = commaed (items.map (·.2)) := by
  rw [commaed, List.flatMap_map, List.flatMap_map]
  rfl

/-- The item that was written last is none of the lifetimes: it stays where it was. -/
theorem regrouped_other_last (lifetimes others : List (Bool × Code)) (last : Code)
    (trailing : Bool) :
    regrouped (lifetimes.map followed) (others.map followed ++ [(false, last, trailing)])
      = separated (.punct ',') trailing ((lifetimes ++ others).map (·.2) ++ [last]) := by
  have hApart : (match (lifetimes.map followed).getLast? with
      | some (_, _, comma) => comma || (others.map followed ++ [(false, last, trailing)]).isEmpty
      | none => true) = true := by
    rw [List.getLast?_map]
    cases lifetimes.getLast? <;> rfl
  rw [regrouped, hApart, separated_concat, List.flatMap_append, flatMap_followed, flatMap_followed,
    commaed, commaed, commaed, List.map_append, List.flatMap_append, List.flatMap_singleton]
  simp only [if_true, List.append_nil, List.append_assoc]

/-- The item that was written last is a lifetime: if there are others, the last of them has its
comma already. -/
theorem regrouped_lifetime_last (lifetimes others : List (Bool × Code)) (last : Code)
    (trailing : Bool) :
    regrouped (lifetimes.map followed ++ [(true, last, trailing)]) (others.map followed)
      = separated (.punct ',') (trailing || !others.isEmpty)
        (lifetimes.map (·.2) ++ last :: others.map (·.2)) := by
  rw [regrouped, List.getLast?_concat, List.flatMap_append, flatMap_followed, flatMap_followed,
    List.flatMap_singleton, List.isEmpty_map]
  cases others with
  | nil => simp [separated_concat, commaed]
  | cons other others =>
    rw [List.isEmpty_cons, Bool.not_false, Bool.or_true, separated_true]
    cases trailing <;> simp [commaed, withComma]

theorem filter_followed (mark : Bool → Bool) (items : List (Bool × Code)) :
    (items.map followed).filter (fun item => mark item.1)
      = (items.filter fun item => mark item.1).map followed :=
  List.filter_map

theorem any_marks (items : List (Bool × Code)) :
    (items.map (·.1)).any (!·) = !(items.filter (!·.1)).isEmpty := by
  induction items with
  | nil => rfl
  | cons item items ih =>
    rcases item with ⟨_ | _, item⟩
    · rfl
    · exact ih

/-- **A list with the lifetimes in front is well separated.** -/
theorem lifetimesFirst_eq_separated (items : List (Bool × Code)) (trailing : Bool) :
    lifetimesFirst items trailing
      = separated (.punct ',') (endsInComma (items.map (·.1)) trailing)
        (lifetimesBefore items) := by
  rcases List.eq_nil_or_concat items with rfl | ⟨items, ⟨mark, last⟩, rfl⟩
  · cases trailing <;> rfl
  rw [List.concat_eq_append]
  have hRegrouped : lifetimesFirst (items ++ [(mark, last)]) trailing
      = regrouped ((items.filter (·.1)).map followed ++ [(mark, last, trailing)].filter (·.1))
        ((items.filter (!·.1)).map followed ++ [(mark, last, trailing)].filter (!·.1)) := by
    rw [← filter_followed (·), ← filter_followed (!·), ← List.filter_append, ← List.filter_append,
      ← withCommas_concat trailing items (mark, last)]
    rfl
  rw [hRegrouped]
  cases mark with
  | false =>
    have hEnds : endsInComma ((items ++ [(false, last)]).map (·.1)) trailing = trailing := by
      simp [endsInComma]
    rw [hEnds]
    simpa [lifetimesBefore] using regrouped_other_last (items.filter (·.1)) (items.filter (!·.1))
      last trailing
  | true =>
    have hEnds : endsInComma ((items ++ [(true, last)]).map (·.1)) trailing
        = (trailing || !(items.filter (!·.1)).isEmpty) := by
      rw [← any_marks, endsInComma, List.map_append, List.any_append]
      simp
    rw [hEnds]
    simpa [lifetimesBefore] using regrouped_lifetime_last (items.filter (·.1)) (items.filter (!·.1))
      last trailing

/-- The code of a list of items, between what opens and what closes it; of no items there is no code
at all. -/
def Lists (code opening closing : Code) (items : List Code) : Prop :=
  items = [] ∧ code = []
    ∨ items ≠ [] ∧ ∃ trailing, code = opening ++ separated (.punct ',') trailing items ++ closing

end Code

/-! ## Names of parameters -/

/-- A parameter as it is referred to: lifetimes have names of their own. -/
structure ParamName where
  name : Ident
  isLifetime : Bool
deriving DecidableEq

namespace ParamName

def code (n : ParamName) : Code := if n.isLifetime then Token.lifetime n.name else [.ident n.name]

/-- The same names with the lifetimes in front; among the lifetimes and among the others, the order
is kept. -/
structure LifetimesFirst (names declared : List ParamName) : Prop where
  perm : names.Perm declared
  first : names.Pairwise fun a b => b.isLifetime → a.isLifetime
  kept : ∀ kind, names.filter (·.isLifetime = kind) = declared.filter (·.isLifetime = kind)

theorem lifetimesFirst_filter (declared : List ParamName) :
    LifetimesFirst (declared.filter (·.isLifetime) ++ declared.filter (!·.isLifetime))
      declared where
  perm := List.filter_append_perm _ declared
  first := by
    refine List.pairwise_append.mpr ⟨?_, ?_, fun a ha b hb => ?_⟩
    · exact List.pairwise_of_forall_mem_list fun a ha _ _ _ => (List.mem_filter.mp ha).2
    · refine List.pairwise_of_forall_mem_list fun a _ b hb hLifetime => ?_
      simp [hLifetime] at hb
    · exact fun _ => (List.mem_filter.mp ha).2
  kept kind := by
    cases kind <;> simp

end ParamName

namespace Code

/-- The name that an item of a list of parameters binds, behind its attributes and, for a constant,
its keyword. -/
def boundName? : Code → Option ParamName
  | .punct '#' :: .group .bracket _ :: rest => boundName? rest
  | .atom (.punct '\'' .joint) :: .atom (.ident name) :: _ => some ⟨name, true⟩
  | .word "const" :: .atom (.ident name) :: .punct ':' :: _ => some ⟨name, false⟩
  | .atom (.ident name) :: _ => some ⟨name, false⟩
  | _ => none

/-- The names among arguments, up to the bracket at the end. -/
def namesToEnd? : Code → Option (List ParamName)
  | [.punct '>'] => some []
  | [.atom (.ident name), .punct '>'] => some [⟨name, false⟩]
  | [.atom (.punct '\'' .joint), .atom (.ident name), .punct '>'] => some [⟨name, true⟩]
  | .atom (.ident name) :: .punct ',' :: rest => (namesToEnd? rest).map (⟨name, false⟩ :: ·)
  | .atom (.punct '\'' .joint) :: .atom (.ident name) :: .punct ',' :: rest =>
    (namesToEnd? rest).map (⟨name, true⟩ :: ·)
  | _ => none

/-- The names that a type is applied to. -/
def appliedNames? : Code → Option (List ParamName)
  | [] => some []
  | .punct '<' :: rest => namesToEnd? rest
  | _ => none

theorem namesToEnd?_comma (n : ParamName) (rest : Code) :
    namesToEnd? (n.code ++ .punct ',' :: rest) = (namesToEnd? rest).map (n :: ·) := by
  rcases n with ⟨name, _ | _⟩
  · cases rest <;> rfl
  · cases rest <;> rfl

theorem namesToEnd?_separated (trailing : Bool) (names : List ParamName) :
    namesToEnd? (separated (.punct ',') trailing (names.map ParamName.code) ++ [.punct '>'])
      = some names := by
  induction names with
  | nil => rfl
  | cons n names ih =>
    cases names with
    | nil =>
      cases trailing with
      | false => rcases n with ⟨name, _ | _⟩ <;> rfl
      | true =>
        show namesToEnd? ((n.code ++ [.punct ',']) ++ [.punct '>']) = some [n]
        rw [List.append_assoc]
        exact namesToEnd?_comma n [.punct '>']
    | cons next names =>
      show namesToEnd?
        ((n.code ++ .punct ',' :: separated (.punct ',') trailing
          ((next :: names).map ParamName.code))
        ++ [.punct '>']) = _
      rw [List.append_assoc, List.cons_append, namesToEnd?_comma, ih]
      rfl

/-- Arguments are read back from their list. -/
theorem Lists.appliedNames?_eq {code : Code} {names : List ParamName}
    (h : code.Lists [.punct '<'] [.punct '>'] (names.map ParamName.code)) :
    code.appliedNames? = some names := by
  rcases h with ⟨hNone, rfl⟩ | ⟨-, trailing, rfl⟩
  · rw [List.map_eq_nil_iff.mp hNone]
    rfl
  · exact namesToEnd?_separated trailing names

end Code

/-! ## Parameters without defaults -/

namespace ParamKind

/-- The same kind of parameter, without a default. -/
def withoutDefault : ParamKind → ParamKind
  | lifetime bounds trailing => lifetime bounds trailing
  | type bounds trailing _ => type bounds trailing none
  | const ty _ => const ty none

end ParamKind

namespace GenericParam

/-- What the parameter is referred to by. -/
def ref (p : GenericParam) : ParamName := ⟨p.name, p.isLifetime⟩

/-- The same parameter, declared without a default. -/
def withoutDefault (p : GenericParam) : GenericParam := { p with kind := p.kind.withoutDefault }

theorem withoutDefault_isLifetime (p : GenericParam) :
    p.withoutDefault.isLifetime = p.isLifetime := by
  rcases p with ⟨_, _, _ | _ | _⟩ <;> rfl

theorem withoutDefault_binding (p : GenericParam) : p.withoutDefault.binding = p.binding := by
  rcases p with ⟨_, _, _ | _ | _⟩ <;> rfl

/-- What is bound is the parameter as declared without a default. -/
theorem withoutDefault_code (p : GenericParam) : p.withoutDefault.code = p.binding := by
  have hNone : p.withoutDefault.defaultCode = [] := by rcases p with ⟨_, _, _ | _ | _⟩ <;> rfl
  rw [code, hNone, List.append_nil, withoutDefault_binding]

theorem code_eq_withoutDefault_append (p : GenericParam) :
    p.code = p.withoutDefault.code ++ p.defaultCode := by
  rw [withoutDefault_code, code]

/-- Attributes in front of a name do not hide it. -/
theorem boundName?_attributes (attributes : List Attribute) (rest : Code) :
    Code.boundName? (attributes.flatMap Attribute.code ++ rest) = rest.boundName? := by
  induction attributes with
  | nil => rfl
  | cons first attributes ih =>
    rw [List.flatMap_cons, List.append_assoc]
    exact ih

theorem boundName?_binding (p : GenericParam) : p.binding.boundName? = some p.ref := by
  rw [binding, boundName?_attributes]
  rcases p with ⟨_, name, ⟨bounds, trailing⟩ | ⟨bounds, trailing, _⟩ | _⟩
  · rfl
  · rcases bounds with _ | ⟨bound, bounds⟩
    · simp [Code.boundName?, bounded, Token.ident, ref, isLifetime]
    · simp [Code.boundName?, bounded, Token.ident, ref, isLifetime, Token.punct]
  · rfl

end GenericParam

namespace Generics

/-- The parameters in the order of printing. -/
def ordered (g : Generics) : List GenericParam :=
  g.params.filter (·.isLifetime) ++ g.params.filter (!·.isLifetime)

/-- **A list of parameters is printed item by item**, lifetimes first. -/
theorem lists_angled (g : Generics) (spell : GenericParam → Code) :
    (g.angled spell).Lists [.punct '<'] [.punct '>'] (g.ordered.map spell) := by
  have hItems : Code.lifetimesBefore (g.params.map fun p => (p.isLifetime, spell p))
      = g.ordered.map spell := by
    rw [Code.lifetimesBefore, List.filter_map, List.filter_map, ← List.map_append, List.map_map]
    rfl
  rw [angled, Code.lifetimesFirst_eq_separated, hItems]
  cases hParams : g.params with
  | nil => exact .inl ⟨by rw [ordered, hParams]; rfl, rfl⟩
  | cons p params =>
    refine .inr ⟨fun hNone => ?_, _, rfl⟩
    have hPerm : g.ordered.Perm g.params := List.filter_append_perm _ g.params
    rw [List.map_eq_nil_iff.mp hNone, hParams] at hPerm
    exact List.cons_ne_nil p params hPerm.nil_eq.symm

theorem lifetimesFirst_ordered (g : Generics) :
    ParamName.LifetimesFirst (g.ordered.map GenericParam.ref) (g.params.map GenericParam.ref) := by
  have hFilter := ParamName.lifetimesFirst_filter (g.params.map GenericParam.ref)
  rw [List.filter_map, List.filter_map] at hFilter
  rw [ordered, List.map_append]
  exact hFilter

/-- The same generics, without defaults. -/
def withoutDefaults (g : Generics) : Generics :=
  { g with params := g.params.map GenericParam.withoutDefault }

theorem withoutDefaults_angled (g : Generics) {spell : GenericParam → Code}
    (hSpell : ∀ p : GenericParam, spell p.withoutDefault = spell p) :
    g.withoutDefaults.angled spell = g.angled spell := by
  have hItems : g.withoutDefaults.params.map (fun p => (p.isLifetime, spell p))
      = g.params.map fun p => (p.isLifetime, spell p) := by
    rw [withoutDefaults, List.map_map]
    exact List.map_congr_left fun p _ => Prod.ext p.withoutDefault_isLifetime (hSpell p)
  rw [angled, hItems, angled, withoutDefaults, List.isEmpty_map]

/-- The conditions of the `where` clause, if there is one. -/
def predicates (g : Generics) : List Predicate := (g.conditions.map WhereClause.predicates).getD []

theorem lists_conditionsCode (g : Generics) :
    g.conditionsCode.Lists [.word "where"] [] (g.predicates.map Predicate.code) := by
  rw [conditionsCode, predicates]
  rcases g.conditions with _ | ⟨_ | ⟨first, rest⟩, trailing⟩
  · exact .inl ⟨rfl, rfl⟩
  · exact .inl ⟨rfl, rfl⟩
  · exact .inr ⟨List.cons_ne_nil _ _, trailing, (List.append_nil _).symm⟩

end Generics

/-! ## Headers -/

/-- Without its defaults a declaration is accepted as before, and has the same derived code. -/
theorem Declaration.derived_withoutDefaults {d : Declaration} (h : d.IsMergeable) :
    let plain : Declaration := { d with generics := d.generics.withoutDefaults }
    plain.implementation = .ok plain.derived ∧ plain.derived.code = d.derived.code := by
  intro plain
  have hMergeable : plain.IsMergeable := ⟨h.isRecord, h.isReadable, h.shapes, h.labels⟩
  have hBinders : plain.derived.generics.binders = d.derived.generics.binders :=
    d.generics.withoutDefaults_angled GenericParam.withoutDefault_binding
  have hArguments : plain.derived.generics.arguments = d.derived.generics.arguments :=
    d.generics.withoutDefaults_angled fun p => by
      rw [GenericParam.nameCode, p.withoutDefault_isLifetime]
      rfl
  have hHeader (trait : Code) : plain.derived.header trait = d.derived.header trait := by
    rw [Implementation.header, hBinders, hArguments]
    rfl
  refine ⟨implementation_eq_ok_iff.mpr ⟨hMergeable, rfl⟩, ?_⟩
  rw [Implementation.code, Implementation.inherentCode, Implementation.traitCode, hHeader, hHeader]
  rfl

/-- **The headers of both implementations bind what they apply.**  For a declaration that is
    accepted, all of the derived code is the record's own implementation and that of the trait, and
    (1) the two headers are the same up to the trait, which stands behind what is bound;
    (2) the names that the record is applied to are those of the items that are bound, one by one:
        the declared parameters, lifetimes first and otherwise in the order of declaration;
    (3) each item is its parameter as it would be declared without a default, and all conditions are
        kept;
    (4) a declaration without the defaults is accepted too, with the same derived code. -/
theorem headers_bind_what_they_apply {d : Declaration} {i : Implementation}
    (accepted : d.implementation = .ok i) :
    ∃ (binders arguments conditions own forwarding : Code) (items : List Code)
      (names : List ParamName),
      let front := Operation.attributeCode [.word "automatically_derived"]
        ++ .word "impl" :: binders
      let back := .ident d.name :: arguments ++ conditions
      let trait := Settings.runtimeCode ⟨d.runtime?⟩ ++ Token.sign [':', ':']
        ++ [.word "Spread", .word "for"]
      i.code.Splits i.inherentCode i.traitCode
        ∧ i.inherentCode = front ++ back ++ [.group .brace own]
        ∧ i.traitCode = front ++ trait ++ back ++ [.group .brace forwarding]
        ∧ binders.Lists [.punct '<'] [.punct '>'] items
        ∧ items.map Code.boundName? = names.map some
        ∧ arguments.appliedNames? = some names
        ∧ ParamName.LifetimesFirst names (d.generics.params.map GenericParam.ref)
        ∧ items = d.generics.ordered.map (·.withoutDefault.code)
        ∧ (∀ p ∈ d.generics.params, p.code = p.withoutDefault.code ++ p.defaultCode)
        ∧ conditions.Lists [.word "where"] [] (d.generics.predicates.map Predicate.code)
        ∧ ∃ j, ({ d with generics := d.generics.withoutDefaults } : Declaration).implementation
            = .ok j ∧ j.code = i.code := by
  obtain ⟨hMergeable, rfl⟩ := Declaration.implementation_eq_ok_iff.mp accepted
  have hBinders := d.generics.lists_angled GenericParam.binding
  have hArguments := d.generics.lists_angled GenericParam.nameCode
  refine ⟨d.generics.binders, d.generics.arguments, d.generics.conditionsCode,
    d.derived.merging.code ++ d.derived.mergingInPlace.code,
    Implementation.forward d.derived.merging ++ Implementation.forward d.derived.mergingInPlace,
    d.generics.ordered.map GenericParam.binding, d.generics.ordered.map GenericParam.ref,
    Implementation.code_splits _, ?_, ?_, hBinders, ?_, ?_,
    d.generics.lifetimesFirst_ordered, ?_, fun p _ => p.code_eq_withoutDefault_append,
    d.generics.lists_conditionsCode, _, Declaration.derived_withoutDefaults hMergeable⟩
  · simp [Implementation.inherentCode, Implementation.header, Declaration.derived]
  · simp [Implementation.traitCode, Implementation.header, Declaration.derived]
  · rw [List.map_map, List.map_map]
    exact List.map_congr_left fun p _ => p.boundName?_binding
  · exact Code.Lists.appliedNames?_eq (by rw [List.map_map]; exact hArguments)
  · exact List.map_congr_left fun p _ => p.withoutDefault_code.symm

/-- The record `R<T: 'b + Clone = !, 'a, #[a] const N: _ = 3, 'b: 'a> where T: 'a + From<T>, {}`. -/
def mixedRecord : Declaration :=
  { Declaration.ofParts [] (.record []) with
    generics :=
      { params :=
          [⟨[], ⟨"T", false⟩, .type [.lifetime ⟨"b", false⟩,
              .trait false false [] (.ofNames false [⟨"Clone", false⟩])] false (some .never)⟩,
            ⟨[], ⟨"a", false⟩, .lifetime [] false⟩,
            ⟨[attributeA default], ⟨"N", false⟩, .const .infer (some [.literal "3"])⟩,
            ⟨[], ⟨"b", false⟩, .lifetime [⟨"a", false⟩] false⟩]
        conditions := some ⟨[.type [] (.path (.ofNames false [⟨"T", false⟩]))
          [.lifetime ⟨"a", false⟩, .trait false false [] (.mk false [.mk ⟨"From", false⟩
            (.angled false [.type (.path (.ofNames false [⟨"T", false⟩]))] false)])]
          false], true⟩ } }

theorem headers_bind_what_they_apply_in_mixed_order :
    ∃ (i : Implementation) (binders arguments : Code) (items : List Code) (names : List ParamName),
      mixedRecord.implementation = .ok i
        ∧ Code.text (i.header [])
          = "# [automatically_derived] impl < 'a , 'b : 'a , T : 'b + Clone , "
            ++ "# [a] const N : _ , > R < 'a , 'b , T , N , > where T : 'a + From < T > ,"
        ∧ binders.Lists [.punct '<'] [.punct '>'] items
        ∧ items.map Code.boundName? = names.map some
        ∧ arguments.appliedNames? = some names
        ∧ names = [⟨⟨"a", false⟩, true⟩, ⟨⟨"b", false⟩, true⟩, ⟨⟨"T", false⟩, false⟩,
          ⟨⟨"N", false⟩, false⟩] := by
  obtain ⟨binders, arguments, -, -, -, items, names, -, -, -, hItems, hBound, hApplied, hFirst,
      hParams, -⟩ :=
    headers_bind_what_they_apply (d := mixedRecord) rfl
  refine ⟨_, binders, arguments, items, names, rfl, by decide +kernel, hItems, hBound, hApplied, ?_⟩
  rw [hParams] at hBound
  exact List.map_injective_iff.mpr (fun _ _ => Option.some.inj) hBound.symm

end Overlay
