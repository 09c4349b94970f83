import Overlay.Merge.Session

/-!
Generated code, read back.

A method is derived as a program (`Operation`) and leaves the library as code.  To say what the CODE
does, and not only the program that it was printed from, this file reads code the way its compiler
does, token by token, and runs what it finds there:

* `Content.read?`, `Entry.read?`, `Entry.readAll?`, `Statement.readAll?` read the parts of a
  method's body.  They know nothing of the printers: a name means a record only in front of a point,
  a field only behind one, a label only in front of a colon, so that a field may well be called
  `from` or `take`.
* `MethodCode.allIn` finds the methods in the braces of an implementation, each with what stands in
  front of it.
* `Code.call?` calls a method of an implementation on two records, `Code.traitCall?` one of the
  trait's implementation, which hands its arguments on to the record's own method.  Of both methods
  the attributes and the parameters are read: with an attribute that is not known there is no call.
* `Code.Splits` says that code consists of two implementations.

Every reader is a left inverse of its printer (`read?_code`, `readAll?_separated`, `readAll?_code`,
`allIn_code`): the crux is that entries hold no comma of their own, so that splitting a record
literal at its commas gives back the entries it was made of.  `methods_inherentCode` and
`methods_traitCode` put this together: the methods found in derived code are the derived operations
and those that forward to them.  They stand in the two implementations that all of the derived code
splits into (`code_splits`).
-/

namespace Overlay

/-! ## Contents -/

namespace Source

/-- The record that a word stands for. -/
def ofWord? : String → Option Source
  | "self" => some .receiver
  | "from" => some .override
  | _ => none

end Source

namespace Content

mutual

/-- Reads a content: a field that is taken out of a record, and the calls behind it. -/
def read? : Code → Option Content
  | .word record :: .punct '.' :: .atom (.ident field) :: .punct '.' :: .word "take"
      :: .group .parenthesis [] :: calls =>
    match Source.ofWord? record with
    | some source => readCalls? (.take source field) calls
    | none => none
  | _ => none

/-- Reads calls of `or` behind a content. -/
def readCalls? (first : Content) : Code → Option Content
  | [] => some first
  | .punct '.' :: .word "or" :: .group .parenthesis argument :: calls =>
    match read? argument with
    | some second => readCalls? (.or first second) calls
    | none => none
  | _ => none

end

/-- The code of a content begins with the name of a record. -/
theorem code_head (c : Content) : ∃ record rest, c.code = .word record :: rest := by
  induction c with
  | take source field =>
    cases source
    · exact ⟨"self", _, rfl⟩
    · exact ⟨"from", _, rfl⟩
  | or first second ihFirst _ =>
    obtain ⟨record, rest, h⟩ := ihFirst
    refine ⟨record, rest ++ [.punct '.', .word "or", .group .parenthesis second.code], ?_⟩
    rw [code, h, List.cons_append]

/-- Reading a content takes exactly its code, and goes on with the calls behind it. -/
theorem read?_code_append (c : Content) (calls : Code) :
    read? (c.code ++ calls) = readCalls? c calls := by
  induction c generalizing calls with
  | take source field =>
    cases source
    · show read? (.word "self" :: _) = _
      simp [read?, Source.ofWord?, Token.word, Token.punct, Token.ident]
    · show read? (.word "from" :: _) = _
      simp [read?, Source.ofWord?, Token.word, Token.punct, Token.ident]
  | or first second ihFirst ihSecond =>
    have hSecond : read? second.code = some second := by
      have h := ihSecond []
      rw [List.append_nil] at h
      rw [h, readCalls?]
    rw [code, List.append_assoc, ihFirst]
    show readCalls? first (.punct '.' :: .word "or" :: .group .parenthesis second.code :: calls) = _
    simp only [Token.word, Token.punct, readCalls?, hSecond]

/-- **The code of a content reads back as that content.** -/
theorem read?_code (c : Content) : read? c.code = some c := by
  have h := read?_code_append c []
  rw [List.append_nil] at h
  rw [h, readCalls?]

end Content

/-! ## Record literals -/

namespace Initializer

/-- Reads what a field is set to: the marker value by its full path, or a content. -/
def read? : Code → Option Initializer
  | [.atom (.punct ':' .joint), .punct ':', .word "core", .atom (.punct ':' .joint), .punct ':',
      .word "marker", .atom (.punct ':' .joint), .punct ':', .word "PhantomData"] => some .marker
  | code => (Content.read? code).map .content

theorem read?_code (i : Initializer) : read? i.code = some i := by
  cases i with
  | marker => rfl
  | content c =>
    have h : read? c.code = (Content.read? c.code).map .content := by
      -- a content begins with the name of a record, never with a colon
      obtain ⟨record, rest, h⟩ := c.code_head
      rw [h]
      rfl
    rw [code, h, Content.read?_code, Option.map_some]

end Initializer

namespace Entry

/-- Reads a field of a record literal: its label, and what stands behind the colon. -/
def read? : Code → Option Entry
  | .atom (.ident label) :: .punct ':' :: value => (Initializer.read? value).map (⟨label, ·⟩)
  | _ => none

theorem read?_code (e : Entry) : read? e.code = some e := by
  show (Initializer.read? e.value.code).map (⟨e.label, ·⟩) = some e
  rw [Initializer.read?_code, Option.map_some]

end Entry

/-- Is this token a comma? -/
def Token.isComma : Token → Bool
  | .atom (.punct ',' _) => true
  | _ => false

/-- The parts of code between its commas.  Commas inside of brackets do not count. -/
def Code.parts (code : Code) : List Code :=
  if code.isEmpty then [] else code.splitOnP Token.isComma

/-- No token of this code is a comma. -/
def Code.CommaFree (code : Code) : Prop := code.any Token.isComma = false

namespace Code

theorem CommaFree.append {code more : Code} (h : code.CommaFree) (hMore : more.CommaFree) :
    CommaFree (code ++ more) := by
  have h1 : code.any Token.isComma = false := h
  have h2 : more.any Token.isComma = false := hMore
  show (code ++ more).any Token.isComma = false
  rw [List.any_append, h1, h2]
  rfl

theorem CommaFree.isComma_eq_false {code : Code} (h : code.CommaFree) :
    ∀ t ∈ code, t.isComma = false := by
  intro t ht
  have h1 := List.any_eq_false.mp h t ht
  exact Bool.eq_false_iff.mpr h1

/-- Splitting a list at its commas undoes the separation of its items, of which there is at least
one. -/
theorem splitOnP_separated (item : Code) (items : List Code)
    (h : ∀ i ∈ item :: items, CommaFree i) :
    (separated (.punct ',') false (item :: items)).splitOnP Token.isComma = item :: items := by
  induction items generalizing item with
  | nil => exact List.splitOnP_eq_singleton (h item List.mem_cons_self).isComma_eq_false
  | cons next rest ih =>
    have hItem : item.CommaFree := h item List.mem_cons_self
    have hRest : ∀ i ∈ next :: rest, CommaFree i := fun i hi => h i (List.mem_cons_of_mem item hi)
    rw [separated, List.splitOnP_append_cons_of_forall_mem hItem.isComma_eq_false (.punct ',') rfl,
      ih next hRest]

/-- **Splitting at commas undoes separating by commas**, for items that are not empty and hold no
comma at their top. -/
theorem parts_separated (items : List Code) (hFree : ∀ i ∈ items, CommaFree i)
    (hFull : ∀ i ∈ items, i ≠ []) : parts (separated (.punct ',') false items) = items := by
  cases items with
  | nil => rfl
  | cons item items =>
    have hNe : separated (.punct ',') false (item :: items) ≠ [] := by
      have hItem : item ≠ [] := hFull item List.mem_cons_self
      cases items with
      | nil => exact hItem
      | cons next rest =>
        rw [separated]
        exact List.append_ne_nil_of_left_ne_nil hItem _
    rw [parts, if_neg (by rw [List.isEmpty_iff]; exact hNe), splitOnP_separated item items hFree]

end Code

theorem Content.code_commaFree (c : Content) : c.code.CommaFree := by
  induction c with
  | take source field => cases source <;> rfl
  | or first second ihFirst _ =>
    have hCall : Code.CommaFree [.punct '.', .word "or", .group .parenthesis second.code] := rfl
    exact ihFirst.append hCall

theorem Initializer.code_commaFree (i : Initializer) : i.code.CommaFree := by
  cases i with
  | content c => exact c.code_commaFree
  | marker => rfl

theorem Entry.code_commaFree (e : Entry) : e.code.CommaFree := by
  have hLabel : Code.CommaFree [.ident e.label, .punct ':'] := rfl
  exact hLabel.append e.value.code_commaFree

namespace Entry

/-- Reads the fields of a record literal. -/
def readAll? (code : Code) : Option (List Entry) := code.parts.mapM read?

theorem mapM_read?_code (entries : List Entry) : (entries.map code).mapM read? = some entries := by
  induction entries with
  | nil => rfl
  | cons e entries ih => simp [read?_code, ih]

/-- Splitting a record literal at its commas gives the codes of its entries. -/
theorem parts_separated_code (entries : List Entry) :
    Code.parts (Code.separated (.punct ',') false (entries.map code)) = entries.map code := by
  have hFree : ∀ i ∈ entries.map code, Code.CommaFree i := by
    intro i hi
    obtain ⟨e, _, rfl⟩ := List.mem_map.mp hi
    exact e.code_commaFree
  have hFull : ∀ i ∈ entries.map code, i ≠ [] := by
    intro i hi
    obtain ⟨e, _, rfl⟩ := List.mem_map.mp hi
    exact List.cons_ne_nil _ _
  exact Code.parts_separated _ hFree hFull

/-- **The fields of a record literal read back as the entries it was made of.** -/
theorem readAll?_separated (entries : List Entry) :
    readAll? (Code.separated (.punct ',') false (entries.map code)) = some entries := by
  rw [readAll?, parts_separated_code, mapM_read?_code]

end Entry

/-! ## Method bodies -/

namespace Statement

/-- Reads the statements of a method.  A record literal that is not assigned ends the body. -/
def readAll? : Code → Option (List Statement)
  | [] => some []
  | [.word "Self", .group .brace fields] => (Entry.readAll? fields).map ([.result ·])
  | .word "let" :: .word "_" :: .punct '=' :: .word record :: .punct ';' :: rest =>
    match Source.ofWord? record, readAll? rest with
    | some source, some statements => some (.ignore source :: statements)
    | _, _ => none
  | .punct '*' :: .word "self" :: .punct '=' :: .word "Self" :: .group .brace fields :: .punct ';'
      :: rest =>
    match Entry.readAll? fields, readAll? rest with
    | some entries, some statements => some (.assign entries :: statements)
    | _, _ => none
  | _ => none

theorem readAll?_ignore (source : Source) (rest : Code) :
    readAll? ((ignore source).code ++ rest) = (readAll? rest).map (ignore source :: ·) := by
  cases source <;>
  · simp only [code, Source.code, Token.word, Token.punct, List.cons_append, List.nil_append,
      readAll?, Source.ofWord?]
    cases readAll? rest <;> rfl

theorem readAll?_assign (entries : List Entry) (rest : Code) :
    readAll? ((assign entries).code ++ rest) = (readAll? rest).map (assign entries :: ·) := by
  simp only [code, Entry.literalCode, Token.word, Token.punct, List.cons_append, List.nil_append,
    readAll?]
  have h := Entry.readAll?_separated entries
  simp only [Token.punct] at h
  rw [h]
  cases readAll? rest <;> rfl

theorem readAll?_result (entries : List Entry) :
    readAll? (result entries).code = some [result entries] := by
  simp only [code, Entry.literalCode, Token.word, readAll?, Entry.readAll?_separated,
    Option.map_some]

/-- Does this statement end a body with a value? -/
def isResult : Statement → Bool
  | result _ => true
  | _ => false

/-- **A body reads back as its statements**, if only the last of them gives a value. -/
theorem readAll?_code (front : List Statement) (last : Statement)
    (h : ∀ s ∈ front, s.isResult = false) :
    readAll? ((front ++ [last]).flatMap code) = some (front ++ [last]) := by
  induction front with
  | nil =>
    show readAll? (last.code ++ []) = some [last]
    cases last with
    | ignore source => rw [readAll?_ignore]; rfl
    | assign entries => rw [readAll?_assign]; rfl
    | result entries => rw [List.append_nil, readAll?_result]
  | cons first front ih =>
    have hRest := ih fun s hs => h s (List.mem_cons_of_mem first hs)
    show readAll? (first.code ++ (front ++ [last]).flatMap code) = some (first :: (front ++ [last]))
    cases first with
    | ignore source => rw [readAll?_ignore, hRest]; rfl
    | assign entries => rw [readAll?_assign, hRest]; rfl
    | result entries => exact absurd (h _ List.mem_cons_self) (by simp [isResult])

end Statement

/-! ## Methods -/

/-- A method as it stands in code. -/
structure MethodCode where
  /-- What stands in front of `fn`: attributes and the visibility. -/
  front : Code
  name : Ident
  params : Code
  returnsSelf : Bool
  body : Code

namespace MethodCode

/-- The methods of code behind `front`, which belongs to the first of them. -/
def allFrom (front : Code) : Code → List MethodCode
  | .word "fn" :: .atom (.ident name) :: .group .parenthesis params :: .group .brace body :: rest =>
    ⟨front, name, params, false, body⟩ :: allFrom [] rest
  | .word "fn" :: .atom (.ident name) :: .group .parenthesis params :: .atom (.punct '-' .joint)
      :: .punct '>' :: .word "Self" :: .group .brace body :: rest =>
    ⟨front, name, params, true, body⟩ :: allFrom [] rest
  | t :: rest => allFrom (front ++ [t]) rest
  | [] => []

/-- The methods in the braces of an implementation. -/
def allIn (content : Code) : List MethodCode := allFrom [] content

/-- What is not `fn` opens no method. -/
theorem allFrom_cons_of_ne {t : Token} (h : t ≠ .word "fn") (front rest : Code) :
    allFrom front (t :: rest) = allFrom (front ++ [t]) rest := by
  rw [allFrom]
  -- the equations in front of this one are about code that begins with `fn`
  · intro name params body rest' ht
    exact absurd ht h
  · intro name params body rest' ht
    exact absurd ht h

/-- Code without `fn` belongs to the method behind it. -/
theorem allFrom_append_of_forall_ne {code : Code} (h : ∀ t ∈ code, t ≠ .word "fn")
    (front rest : Code) :
    allFrom front (code ++ rest) = allFrom (front ++ code) rest := by
  induction code generalizing front with
  | nil => rw [List.nil_append, List.append_nil]
  | cons t code ih =>
    have hRest := ih fun u hu => h u (List.mem_cons_of_mem t hu)
    rw [List.cons_append, allFrom_cons_of_ne (h t List.mem_cons_self), hRest, List.append_assoc]
    rfl

/-- A method in front of others, by its name, parameters, result and body. -/
theorem allFrom_method (front : Code) (name : String) (params body : Code) (returnsSelf : Bool)
    (rest : Code) :
    allFrom front ([.word "fn", .word name, .group .parenthesis params]
        ++ Operation.returnCode returnsSelf ++ [.group .brace body] ++ rest)
      = ⟨front, ⟨name, false⟩, params, returnsSelf, body⟩ :: allIn rest := by
  cases returnsSelf <;>
    simp [Operation.returnCode, Token.sign, Token.word, Token.punct, allFrom, allIn]

/-- These tokens change nothing about the method behind them: its documentation, the wish that its
value be used, and a visibility. -/
def isFront : Code → Bool
  | .punct '#' :: .group .bracket [.word "doc", .punct '=', .atom (.literal _)] :: rest =>
    isFront rest
  | .punct '#' :: .group .bracket [.word "must_use"] :: rest => isFront rest
  | [] => true
  | [.word "pub"] => true
  | [.word "pub", .group .parenthesis _] => true
  | _ => false

/-- Is this the parameter `from`, mutable or not? -/
def bindsOverride : Code → Bool
  | [.word "from", .punct ':', .word "Self"] => true
  | [.word "mut", .word "from", .punct ':', .word "Self"] => true
  | _ => false

/-- How a method with these parameters takes its receiver. -/
def passing? : Code → Option Passing
  | .word "self" :: .punct ',' :: rest => if bindsOverride rest then some .value else none
  | .word "mut" :: .word "self" :: .punct ',' :: rest =>
    if bindsOverride rest then some .value else none
  | .punct '&' :: .word "mut" :: .word "self" :: .punct ',' :: rest =>
    if bindsOverride rest then some .reference else none
  | _ => none

/-- How a method takes its receiver, where all that stands in front of it and its parameters is
known. -/
def receiver? (m : MethodCode) : Option Passing :=
  if isFront m.front then passing? m.params else none

/-- The record that a call leaves its caller with.  A receiver that was passed by value is gone, so
that the method has to return one; a receiver that was passed by reference is still there. -/
def run? {V : Type} (m : MethodCode) (receiver override : Slots V) : Option (Slots V) :=
  match Statement.readAll? m.body with
  | none => none
  | some body =>
    let (frame, value) := Statement.runAll body ⟨receiver, override⟩ none
    match m.receiver?, m.returnsSelf with
    | some .value, true => value
    | some .reference, false => some frame.receiver
    | _, _ => none

/-- The method that this one hands its two arguments on to.  The value of the call is returned where
the method returns one, and dropped otherwise. -/
def target? (m : MethodCode) : Option Ident :=
  match m.returnsSelf, m.body with
  | true, [.word "Self", .atom (.punct ':' .joint), .punct ':', .atom (.ident name),
      .group .parenthesis [.word "self", .punct ',', .word "from"]] => some name
  | false, [.word "Self", .atom (.punct ':' .joint), .punct ':', .atom (.ident name),
      .group .parenthesis [.word "self", .punct ',', .word "from"], .punct ';'] => some name
  | _, _ => none

/-- The two methods are called alike: they take the receiver in the same way, and both return a
record or neither does. -/
def CallsAlike (m own : MethodCode) : Prop :=
  m.receiver? = own.receiver? ∧ m.returnsSelf = own.returnsSelf

instance (m own : MethodCode) : Decidable (m.CallsAlike own) :=
  inferInstanceAs (Decidable (m.receiver? = own.receiver? ∧ m.returnsSelf = own.returnsSelf))

/-- The code of the parameters of an operation. -/
def paramsOf (op : Operation) : Code :=
  op.receiverCode ++ .punct ',' :: op.bindingCode ++ Source.override.code
    ++ [.punct ':', .word "Self"]

theorem passing?_paramsOf (op : Operation) : passing? (paramsOf op) = some op.receiver := by
  cases op with
  | mk doc visibility name receiver mutable returnsSelf body =>
    cases receiver <;> cases mutable <;> rfl

/-- What stands in front of the `fn` of an operation. -/
def frontOf (op : Operation) : Code :=
  Operation.attributeCode [.word "doc", .punct '=', .literal (Text.quote op.doc)]
    ++ (if op.returnsSelf then Operation.attributeCode [.word "must_use"] else [])
      ++ op.visibility.code

theorem isFront_frontOf (op : Operation) : isFront (frontOf op) = true := by
  cases op with
  | mk doc visibility name receiver mutable returnsSelf body =>
    cases returnsSelf <;> cases visibility <;> rfl

/-- The method that an operation is printed as. -/
def ofOperation (op : Operation) : MethodCode :=
  ⟨frontOf op, ⟨op.name, false⟩, paramsOf op, op.returnsSelf, op.bodyCode⟩

theorem receiver?_ofOperation (op : Operation) : (ofOperation op).receiver? = some op.receiver := by
  rw [receiver?, ofOperation, isFront_frontOf, if_pos rfl, passing?_paramsOf]

theorem visibility_code_ne_fn (v : Visibility) : ∀ t ∈ v.code, t ≠ .word "fn" := by
  cases v <;> simp [Visibility.code, Token.word]

theorem frontOf_ne_fn (op : Operation) : ∀ t ∈ frontOf op, t ≠ .word "fn" := by
  have hDoc : ∀ t ∈ Operation.attributeCode [.word "doc", .punct '=', .literal (Text.quote op.doc)],
      t ≠ .word "fn" := by
    simp [Operation.attributeCode, Token.word, Token.punct]
  have hUse : ∀ t ∈ (if op.returnsSelf then Operation.attributeCode [.word "must_use"] else []),
      t ≠ .word "fn" := by
    cases op.returnsSelf <;> simp [Operation.attributeCode, Token.word, Token.punct]
  intro t ht
  rcases List.mem_append.mp ht with hAttribute | hVisibility
  · rcases List.mem_append.mp hAttribute with h | h
    · exact hDoc t h
    · exact hUse t h
  · exact visibility_code_ne_fn op.visibility t hVisibility

/-- **The code of an operation is found as a method**, behind its attributes and its visibility. -/
theorem allIn_code (op : Operation) (rest : Code) :
    allIn (op.code ++ rest) = ofOperation op :: allIn rest := by
  have hCode : op.code ++ rest
      = frontOf op ++ ([.word "fn", .word op.name, .group .parenthesis (paramsOf op)]
          ++ Operation.returnCode op.returnsSelf ++ [.group .brace op.bodyCode] ++ rest) := by
    simp [Operation.code, frontOf, paramsOf]
  rw [hCode, allIn, allFrom_append_of_forall_ne (frontOf_ne_fn op), List.nil_append, allFrom_method]
  rfl

end MethodCode

/-! ## Implementations -/

namespace Code

variable {V : Type}

/-- The methods of an implementation, which stand in the braces at its end. -/
def methods (block : Code) : List MethodCode :=
  match block.getLast? with
  | some (.group .brace content) => MethodCode.allIn content
  | _ => []

/-- The method of this name. -/
def method? (block : Code) (name : Ident) : Option MethodCode :=
  block.methods.find? (·.name = name)

/-- Calls a method of a record by its name. -/
def call? (inherent : Code) (name : Ident) (receiver override : Slots V) : Option (Slots V) :=
  (inherent.method? name).bind (·.run? receiver override)

/-- Calls a method of the trait, which hands its arguments on to a method of the record that is
called like it. -/
def traitCall? (inherent trait : Code) (name : Ident) (receiver override : Slots V) :
    Option (Slots V) :=
  (trait.method? name).bind fun m => m.target?.bind fun target =>
    (inherent.method? target).bind fun own =>
      if m.CallsAlike own then own.run? receiver override else none

/-- An implementation: its attribute and `impl`, the rest of its header, and braces at the end. -/
def IsImplementation (block : Code) : Prop :=
  ∃ header content, block = Operation.attributeCode [.word "automatically_derived"]
    ++ .word "impl" :: header ++ [.group .brace content]

/-- All of the code is two implementations: the record's own, and behind it that of the trait. -/
structure Splits (code inherent trait : Code) : Prop where
  code_eq : code = inherent ++ trait
  inherent_block : inherent.IsImplementation
  trait_block : trait.IsImplementation

theorem methods_append_braces (front content : Code) :
    methods (front ++ [.group .brace content]) = MethodCode.allIn content := by
  rw [methods, List.getLast?_concat]

end Code

namespace Implementation

/-- **Derived code splits into the record's own implementation and that of the trait.** -/
theorem code_splits (i : Implementation) : i.code.Splits i.inherentCode i.traitCode where
  code_eq := rfl
  inherent_block :=
    ⟨i.generics.binders ++ .ident i.record :: i.generics.arguments ++ i.generics.conditionsCode,
      i.merging.code ++ i.mergingInPlace.code, by simp [inherentCode, header]⟩
  trait_block :=
    ⟨i.generics.binders ++ (i.runtime ++ Token.sign [':', ':'] ++ [.word "Spread", .word "for"])
        ++ .ident i.record :: i.generics.arguments ++ i.generics.conditionsCode,
      forward i.merging ++ forward i.mergingInPlace, by simp [traitCode, header]⟩

/-- **The record's own methods are found in its implementation.** -/
theorem methods_inherentCode (i : Implementation) :
    i.inherentCode.methods = [.ofOperation i.merging, .ofOperation i.mergingInPlace] := by
  have h := MethodCode.allIn_code i.mergingInPlace []
  rw [List.append_nil] at h
  rw [inherentCode, Code.methods_append_braces, MethodCode.allIn_code, h]
  rfl

/-- The method of the trait that forwards to an operation. -/
def forwardMethod (op : Operation) : MethodCode where
  front := []
  name := ⟨op.name, false⟩
  params := (match op.receiver with
    | .value => [.word "self"]
    | .reference => [.punct '&', .word "mut", .word "self"])
    ++ [.punct ',', .word "from", .punct ':', .word "Self"]
  returnsSelf := op.returnsSelf
  body :=
    let call : Code := .word "Self" :: Token.sign [':', ':'] ++ [.word op.name,
      .group .parenthesis [.word "self", .punct ',', .word "from"]]
    if op.returnsSelf then call else call ++ [.punct ';']

theorem allIn_forward (op : Operation) (rest : Code) :
    MethodCode.allIn (forward op ++ rest) = forwardMethod op :: MethodCode.allIn rest :=
  MethodCode.allFrom_method [] op.name (forwardMethod op).params (forwardMethod op).body
    op.returnsSelf rest

/-- **The methods of the trait are found in its implementation.** -/
theorem methods_traitCode (i : Implementation) :
    i.traitCode.methods = [forwardMethod i.merging, forwardMethod i.mergingInPlace] := by
  have h := allIn_forward i.mergingInPlace []
  rw [List.append_nil] at h
  rw [traitCode, Code.methods_append_braces, allIn_forward, h]
  rfl

/-- A method of the trait hands its arguments on to the operation that it was made for. -/
theorem target?_forwardMethod (op : Operation) :
    (forwardMethod op).target? = some ⟨op.name, false⟩ := by
  cases op with
  | mk doc visibility name receiver mutable returnsSelf body => cases returnsSelf <;> rfl

/-- It is called like that operation. -/
theorem callsAlike_forwardMethod (op : Operation) :
    (forwardMethod op).CallsAlike (.ofOperation op) := by
  refine ⟨?_, rfl⟩
  rw [MethodCode.receiver?_ofOperation]
  cases op with
  | mk doc visibility name receiver mutable returnsSelf body => cases receiver <;> rfl

end Implementation

end Overlay
