import Overlay.Lexer.Forest
import Overlay.Proofs.WrittenAtoms

/-!
Texts that are written token by token, and what is read from them.

GAPS     between tokens there may be white space and comments that document nothing.  `Gap` says by
         rules what these are; block comments nest, and a line comment ends with its line.
PIECES   `Lexes cs found` says that a text consists of these pieces, wherever it begins.  It is
         proved from the end of the text to its beginning, one rule for each thing that may stand at
         the front (`Lexes.gap`, `Lexes.word`, `Lexes.literal`, `Lexes.sign`, `Lexes.bracket`).
TREES    the pieces of code, brackets included, are nested to its trees (`nest_code`).

A text that consists of the pieces of some code is read as that code (`forest?_of_lexes`).
-/

namespace Overlay.Lexer

open Unicode (isBlank isIdentStart isIdentContinue)

/-! ## Gaps between tokens -/

/-- The inside of a block comment up to its end.  Comments nest. -/
inductive BlockText : List Char → Prop
  | close : BlockText ['*', '/']
  | char {c : Char} {cs : List Char} (hOpen : ¬ (c = '/' ∧ cs.head? = some '*'))
      (hClose : ¬ (c = '*' ∧ cs.head? = some '/')) (h : BlockText cs) : BlockText (c :: cs)
  | nested {inner cs : List Char} (hInner : BlockText inner) (h : BlockText cs) :
      BlockText ('/' :: '*' :: inner ++ cs)

/-- Behind `/*`: the comment documents nothing. -/
def isOrdinaryBlock : List Char → Bool
  | '!' :: _ => false
  | ['*', '/'] => true
  | '*' :: '*' :: _ => true
  | '*' :: _ => false
  | _ => true

/-- Behind two slashes: the comment documents nothing. -/
def isOrdinaryLine : List Char → Bool
  | '!' :: _ => false
  | '/' :: '/' :: _ => true
  | '/' :: _ => false
  | _ => true

/-- White space and comments that document nothing. -/
inductive Gap : List Char → Prop
  | nil : Gap []
  | blank {c : Char} {cs : List Char} (hBlank : isBlank c = true) (h : Gap cs) : Gap (c :: cs)
  | line {text cs : List Char} (hLine : '\n' ∉ text) (hOrdinary : isOrdinaryLine text = true)
      (h : Gap cs) :
      Gap ('/' :: '/' :: text ++ '\n' :: cs)
  | block {text cs : List Char} (hText : BlockText text) (hOrdinary : isOrdinaryBlock text = true)
      (h : Gap cs) :
      Gap ('/' :: '*' :: text ++ cs)

theorem Gap.space : Gap [' '] := .blank (by decide) .nil

/-- A gap at the end of a text, where the last comment need not end its line. -/
inductive LastGap : List Char → Prop
  | gap {cs : List Char} (h : Gap cs) : LastGap cs
  | line {cs text : List Char} (h : Gap cs) (hLine : '\n' ∉ text)
      (hOrdinary : isOrdinaryLine text = true) :
      LastGap (cs ++ '/' :: '/' :: text)

theorem endsWord_cons {c : Char} (hWordless : Unicode.wordless.covers c.toNat = true)
    (hPlain : c ∉ ['"', '#', '\'']) (cs : List Char) : EndsWord (c :: cs) := by
  simp only [List.mem_cons, List.not_mem_nil, or_false, not_or] at hPlain
  constructor
  · rintro _ ⟨⟩
    exact hPlain
  · rintro _ ⟨⟩
    exact Unicode.not_isIdentContinue_of_wordless hWordless

/-- A word ends in front of a gap. -/
theorem Gap.endsWord {gap rest : List Char} (h : Gap gap) (hRest : EndsWord rest) :
    EndsWord (gap ++ rest) := by
  cases h with
  | nil => exact hRest
  | blank hBlank h =>
    have hMarks : ['"', '#', '\''] ⊆ marks := by decide
    exact endsWord_cons (Unicode.wordless_of_isBlank hBlank)
      (fun hMem => not_mem_marks_of_isBlank hBlank (hMarks hMem)) _
  | line => exact endsWord_cons (by decide) (by decide) _
  | block => exact endsWord_cons (by decide) (by decide) _

theorem LastGap.endsWord {gap : List Char} (h : LastGap gap) : EndsWord gap := by
  have hEnd : EndsWord [] := ⟨nofun, nofun⟩
  cases h with
  | gap h =>
    rw [← List.append_nil gap]
    exact h.endsWord hEnd
  | line h => exact h.endsWord (endsWord_cons (by decide) (by decide) _)

/-- Punctuation does not glue to a gap. -/
theorem Gap.startsPunct_eq_false {gap rest : List Char} (h : Gap gap)
    (hRest : startsPunct rest = false) :
    startsPunct (gap ++ rest) = false := by
  cases h with
  | nil => exact hRest
  | blank hBlank h => exact Lexer.startsPunct_eq_false (not_mem_marks_of_isBlank hBlank) _
  | line => rfl
  | block => rfl

/-- Where so many comments are open, what follows the end of one of them. -/
def blockRest (depth : Nat) (cs : List Char) : Option (List Char × List Char) :=
  if depth = 0 then some ([], cs) else blockComment depth cs

theorem BlockText.ne_nil {text : List Char} (h : BlockText text) : text ≠ [] := by
  cases h <;> exact List.cons_ne_nil _ _

/-- The induction is on the inside of the comment; of the comments that are open, it closes the
innermost. -/
theorem BlockText.blockComment_eq {text : List Char} (h : BlockText text) (depth : Nat)
    (rest : List Char) :
    blockComment (depth + 1) (text ++ rest) = (blockRest depth rest).map fun p =>
      (text ++ p.1, p.2) := by
  induction h generalizing depth rest with
  | close =>
    cases depth with
    | zero => rfl
    | succ depth =>
      have hDeep : ¬ depth + 1 + 1 ≤ 1 := by omega
      rw [List.cons_append, List.cons_append, blockComment, if_neg hDeep, blockRest,
        if_neg (Nat.succ_ne_zero depth)]
      simp [Scanner.cons, Option.map_map, Function.comp_def]
  | @char c cs hOpen hClose h ih =>
    obtain ⟨d, ds, rfl⟩ := List.exists_cons_of_ne_nil h.ne_nil
    rw [List.cons_append, blockComment, ih]
    · simp [Scanner.cons, Option.map_map, Function.comp_def]
    · rintro _ rfl heq
      exact hOpen ⟨rfl, congrArg some (List.cons.inj heq).1⟩
    · rintro _ rfl heq
      exact hClose ⟨rfl, congrArg some (List.cons.inj heq).1⟩
  | @nested inner cs hInner h ihInner ih =>
    rw [List.cons_append, List.cons_append, List.cons_append, List.cons_append, blockComment,
      List.append_assoc, ihInner, blockRest, if_neg (Nat.succ_ne_zero depth), ih]
    simp [Scanner.cons, Option.map_map, Function.comp_def]

/-- **An ordinary block comment is a gap.** -/
theorem plainComment_block {text : List Char} (h : BlockText text)
    (hOrdinary : isOrdinaryBlock text = true) (rest : List Char) :
    plainComment ('/' :: '*' :: text ++ rest) = some ('/' :: '*' :: text, rest) := by
  have hBlock : blockComment 0 ('/' :: '*' :: (text ++ rest))
      = some ('/' :: '*' :: text, rest) := by
    rw [blockComment, h.blockComment_eq]
    simp [blockRest, Scanner.cons]
  rw [List.cons_append, List.cons_append]
  unfold isOrdinaryBlock at hOrdinary
  split at hOrdinary
  case h_1 => exact absurd hOrdinary Bool.false_ne_true
  case h_2 => rfl
  case h_3 => exact hBlock
  case h_4 => exact absurd hOrdinary Bool.false_ne_true
  case h_5 hBang hEmpty hStars hStar =>
    obtain ⟨c, cs, rfl⟩ := List.exists_cons_of_ne_nil h.ne_nil
    have hNoBang : c ≠ '!' := by
      rintro rfl
      exact hBang cs rfl
    have hNoStar : c ≠ '*' := by
      rintro rfl
      exact hStar cs rfl
    rw [← hBlock]
    simp [plainComment, hNoBang, hNoStar]

/-- What may stand behind a comment up to the end of its line. -/
def EndsLine (rest : List Char) : Prop := rest = [] ∨ rest.head? = some '\n'

theorem lineText_cons {c : Char} {cs : List Char} (hFeed : c ≠ '\n')
    (hReturn : ¬ (c = '\r' ∧ cs.head? = some '\n')) :
    lineText (c :: cs) = (c :: (lineText cs).1, (lineText cs).2) := by
  rw [lineText]
  · rintro rfl
    exact hFeed rfl
  · rintro _ rfl rfl
    exact hReturn ⟨rfl, rfl⟩

/-- The rest of a line is what was said, and perhaps the carriage return that ends it. -/
theorem lineText_append {text rest : List Char} (hLine : '\n' ∉ text) (hRest : EndsLine rest) :
    (lineText (text ++ rest)).1 ++ (lineText (text ++ rest)).2.1 = text
      ∧ (lineText (text ++ rest)).2.2 = rest := by
  induction text with
  | nil =>
    rcases hRest with rfl | hFeed
    · exact ⟨rfl, rfl⟩
    · cases rest with
      | nil => nomatch hFeed
      | cons c rest =>
        cases hFeed
        exact ⟨rfl, rfl⟩
  | cons c text ih =>
    have hFeed : c ≠ '\n' := fun h => hLine (h ▸ List.mem_cons_self)
    obtain ⟨hSaid, hEnd⟩ := ih fun h => hLine (List.mem_cons_of_mem c h)
    by_cases hReturn : c = '\r' ∧ (text ++ rest).head? = some '\n'
    · obtain ⟨rfl, hHead⟩ := hReturn
      -- the line feed is none of the comment, so that this is the end of the line
      cases text with
      | nil =>
        cases rest with
        | nil => nomatch hHead
        | cons d rest =>
          cases hHead
          exact ⟨rfl, rfl⟩
      | cons d text =>
        cases hHead
        exact absurd (List.mem_cons_of_mem _ List.mem_cons_self) hLine
    · rw [List.cons_append, lineText_cons hFeed hReturn]
      exact ⟨congrArg (c :: ·) hSaid, hEnd⟩

/-- Behind the end of its line, a text does not begin anew. -/
theorem append_ne_cons {c : Char} {text rest : List Char} (hText : ∀ cs, text ≠ c :: cs)
    (hRest : EndsLine rest) (hFeed : c ≠ '\n') (cs : List Char) : text ++ rest ≠ c :: cs := by
  cases text with
  | nil =>
    rintro rfl
    rcases hRest with hNone | hSome
    · nomatch hNone
    · exact hFeed (Option.some.inj hSome)
  | cons d text =>
    intro h
    exact hText text (congrArg (· :: text) (List.cons.inj h).1)

/-- **An ordinary comment up to the end of its line is a gap.** -/
theorem plainComment_line {text rest : List Char} (hLine : '\n' ∉ text)
    (hOrdinary : isOrdinaryLine text = true) (hRest : EndsLine rest) :
    plainComment ('/' :: '/' :: text ++ rest) = some ('/' :: '/' :: text, rest) := by
  rw [List.cons_append, List.cons_append]
  unfold isOrdinaryLine at hOrdinary
  split at hOrdinary
  case h_1 => nomatch hOrdinary
  case h_2 text =>
    have hText : '\n' ∉ text := fun h => hLine (by simp [h])
    obtain ⟨hSaid, hEnd⟩ := lineText_append hText hRest
    show some ('/' :: '/' :: '/' :: '/'
      :: ((lineText (text ++ rest)).1 ++ (lineText (text ++ rest)).2.1),
        (lineText (text ++ rest)).2.2) = _
    rw [hSaid, hEnd]
  case h_3 => nomatch hOrdinary
  case h_4 hBang hSlashes hSlash =>
    obtain ⟨hSaid, hEnd⟩ := lineText_append hLine hRest
    have hComment : plainComment ('/' :: '/' :: (text ++ rest))
        = some ('/' :: '/' :: ((lineText (text ++ rest)).1 ++ (lineText (text ++ rest)).2.1),
            (lineText (text ++ rest)).2.2) := by
      have hBang := append_ne_cons hBang hRest (by decide)
      have hSlash := append_ne_cons hSlash hRest (by decide)
      rw [plainComment]
      · rfl
      · exact hBang
      · exact fun cs h => hSlash _ h
      · exact hSlash
    rw [hComment, hSaid, hEnd]

/-! ## What stands at the front -/

theorem front?_of_plainComment {cs taken rest : List Char}
    (h : plainComment cs = some (taken, rest)) :
    front? cs = some (.gap, taken, rest) := by
  unfold front?
  rw [h]

/-- Without a slash there is no comment. -/
theorem front?_cons {c : Char} (hSlash : c ≠ '/') (cs : List Char) :
    front? (c :: cs)
      = if isBlank c then some (.gap, [c], cs)
        else if errorMarker.isPrefixOf (c :: cs) then
          some (.piece (.atom (.literal (String.ofList errorMarker))), errorMarker,
            (c :: cs).drop errorMarker.length)
        else match bracket? c with
          | some piece => some (.piece piece, [c], cs)
          | none => (atom? (c :: cs)).map fun p => (.piece (.atom p.1), p.2.1, p.2.2) := by
  have hPlain : plainComment (c :: cs) = none := by simp [plainComment, hSlash]
  have hDoc : docComment? (c :: cs) = none := by simp [docComment?, hSlash]
  unfold front?
  rw [hPlain, hDoc]
  cases atom? (c :: cs) <;> rfl

theorem front?_blank {c : Char} (h : isBlank c = true) (cs : List Char) :
    front? (c :: cs) = some (.gap, [c], cs) := by
  have hSlash : c ≠ '/' := by
    rintro rfl
    exact not_mem_marks_of_isBlank h (by decide)
  rw [front?_cons hSlash, if_pos h]

/-- Characters that open no atom: the slash, which opens comments, and brackets. -/
def nonatomic : List Char := ['/', '(', ')', '[', ']', '\x7b', '\x7d']

theorem nonatomic_subset_marks : nonatomic ⊆ marks := by decide

theorem front?_atom {c : Char} {cs taken rest : List Char} {a : Atom} (hBlank : isBlank c = false)
    (hLead : c ∉ nonatomic) (h : atom? (c :: cs) = some (a, taken, rest)) :
    front? (c :: cs) = some (.piece (.atom a), taken, rest) := by
  simp only [nonatomic, List.mem_cons, List.not_mem_nil, or_false, not_or] at hLead
  have hBracket : bracket? c = none := by simp [bracket?, hLead]
  have hMarker : errorMarker.isPrefixOf (c :: cs) = false := by
    simp [errorMarker, List.isPrefixOf, Ne.symm hLead.2.1]
  rw [front?_cons hLead.1, if_neg (Bool.eq_false_iff.mp hBlank),
    if_neg (Bool.eq_false_iff.mp hMarker), hBracket, h]
  rfl

theorem front?_bracket {c : Char} {piece : Piece} (h : bracket? c = some piece) {cs : List Char}
    (hMarker : errorMarker.isPrefixOf (c :: cs) = false) :
    front? (c :: cs) = some (.piece piece, [c], cs) := by
  have hBlank : isBlank c = false ∧ c ≠ '/' := by
    unfold bracket? at h
    split at h <;> first | decide | nomatch h
  rw [front?_cons hBlank.2, if_neg (Bool.eq_false_iff.mp hBlank.1),
    if_neg (Bool.eq_false_iff.mp hMarker), h]

/-! ## Pieces of a text -/

/-- The text consists of these pieces, wherever it begins. -/
def Lexes (cs : List Char) (found : List Piece) : Prop :=
  ∀ fuel start, cs.length ≤ fuel → ∃ located, piecesFrom fuel start cs = some located
    ∧ located.map (·.1) = found

theorem Lexes.nil : Lexes [] [] := by
  intro fuel start _
  exact ⟨[], by cases fuel <;> rfl, rfl⟩

/-- The piece that stands at the front, if any does. -/
def Front.pieces : Front → List Piece
  | gap => []
  | piece p => [p]

/-- What stands at the front comes first. -/
theorem Lexes.front {front : Front} {taken rest : List Char} {found : List Piece}
    (hTaken : taken ≠ []) (hFront : front? (taken ++ rest) = some (front, taken, rest))
    (hRest : Lexes rest found) :
    Lexes (taken ++ rest) (front.pieces ++ found) := by
  intro fuel start hFuel
  obtain ⟨c, cs, rfl⟩ := List.exists_cons_of_ne_nil hTaken
  rw [List.cons_append] at hFront hFuel ⊢
  rw [List.length_cons, List.length_append] at hFuel
  obtain ⟨fuel, rfl⟩ : ∃ less, fuel = less + 1 := ⟨fuel - 1, by omega⟩
  obtain ⟨located, hLocated, hFound⟩ := hRest fuel (start.afterAll (c :: cs)) (by omega)
  rw [piecesFrom, hFront]
  cases front with
  | gap => exact ⟨located, by simp [hLocated], hFound⟩
  | piece p =>
    refine ⟨(p, ⟨start, start.afterAll (c :: cs)⟩) :: located, by simp [hLocated], ?_⟩
    rw [List.map_cons, hFound]
    rfl

/-- A gap adds nothing. -/
theorem Lexes.gap {gap rest : List Char} {found : List Piece} (hGap : Gap gap)
    (hRest : Lexes rest found) :
    Lexes (gap ++ rest) found := by
  induction hGap with
  | nil => exact hRest
  | @blank c cs hBlank h ih =>
    exact Lexes.front (List.cons_ne_nil c []) (front?_blank hBlank (cs ++ rest)) ih
  | @line text cs hLine hOrdinary h ih =>
    have hFeed : Lexes ('\n' :: (cs ++ rest)) found :=
      Lexes.front (List.cons_ne_nil '\n' []) (front?_blank (by decide) (cs ++ rest)) ih
    rw [List.append_assoc]
    exact Lexes.front (List.cons_ne_nil _ _)
      (front?_of_plainComment (plainComment_line hLine hOrdinary (.inr rfl))) hFeed
  | @block text cs hText hOrdinary h ih =>
    rw [List.append_assoc]
    exact Lexes.front (List.cons_ne_nil _ _)
      (front?_of_plainComment (plainComment_block hText hOrdinary (cs ++ rest))) ih

theorem Lexes.blank {rest : List Char} {found : List Piece} (h : Lexes rest found) :
    Lexes (' ' :: rest) found :=
  Lexes.gap Gap.space h

theorem Lexes.lastGap {gap : List Char} (hGap : LastGap gap) : Lexes gap [] := by
  cases hGap with
  | gap h =>
    rw [← List.append_nil gap]
    exact Lexes.gap h .nil
  | @line cs text h hLine hOrdinary =>
    have hComment : plainComment ('/' :: '/' :: text ++ []) = _ :=
      plainComment_line hLine hOrdinary (.inl rfl)
    have hText := Lexes.front (List.cons_ne_nil _ _) (front?_of_plainComment hComment) .nil
    rw [List.append_nil] at hText
    exact Lexes.gap h hText

theorem Lexes.word {i : Ident} {rest : List Char} {found : List Piece} (hWord : isWritable i = true)
    (hEnds : EndsWord rest) (hRest : Lexes rest found) :
    Lexes (i.text.toList ++ rest) (.atom (.ident i) :: found) := by
  have hAtom := atom?_word hWord hEnds
  obtain ⟨c, cs, hText, hStart⟩ := exists_text_eq_cons hWord
  have hInside := Unicode.isIdentContinue_of_isIdentStart hStart
  have hAtomic : c ∉ nonatomic := fun hMem =>
    not_mem_marks_of_isIdentContinue hInside (nonatomic_subset_marks hMem)
  rw [hText] at hAtom ⊢
  exact Lexes.front (List.cons_ne_nil c cs)
    (front?_atom (isBlank_eq_false_of_isIdentContinue hInside) hAtomic hAtom) hRest

theorem Lexes.literal {written value rest : List Char} {found : List Piece}
    (hLiteral : Text.StringLiteral written value) (hEnds : ∀ c ∈ rest.head?, isIdentStart c = false)
    (hRest : Lexes rest found) :
    Lexes (written ++ rest) (.atom (.literal (String.ofList written)) :: found) := by
  have hAtom := atom?_literal hLiteral hEnds
  cases hLiteral with
  | quoted =>
    exact Lexes.front (List.cons_ne_nil _ _) (front?_atom (by decide) (by decide) hAtom) hRest
  | raw =>
    exact Lexes.front (List.cons_ne_nil _ _) (front?_atom (by decide) (by decide) hAtom) hRest

/-- A word in front of a character that ends it. -/
theorem Lexes.word_before (name : String) {c : Char} {rest : List Char} {found : List Piece}
    (hWord : isWritable ⟨name, false⟩ = true) (hWordless : Unicode.wordless.covers c.toNat = true)
    (hPlain : c ∉ ['"', '#', '\'']) (h : Lexes (c :: rest) found) :
    Lexes (name.toList ++ c :: rest) (.atom (.ident ⟨name, false⟩) :: found) :=
  Lexes.word (i := ⟨name, false⟩) hWord (endsWord_cons hWordless hPlain rest) h

/-- A literal in front of a character that opens no suffix. -/
theorem Lexes.literal_before {written : String} {value : List Char} {c : Char} {rest : List Char}
    {found : List Piece} (hLiteral : Text.StringLiteral written.toList value)
    (hWordless : Unicode.wordless.covers c.toNat = true) (h : Lexes (c :: rest) found) :
    Lexes (written.toList ++ c :: rest) (.atom (.literal written) :: found) := by
  have hNoSuffix : ∀ d ∈ (c :: rest).head?, isIdentStart d = false := by
    rintro _ ⟨⟩
    refine Bool.eq_false_iff.mpr fun hStart => ?_
    have hInside := Unicode.isIdentContinue_of_isIdentStart hStart
    rw [Unicode.not_isIdentContinue_of_wordless hWordless] at hInside
    exact Bool.false_ne_true hInside
  have hLexes := Lexes.literal hLiteral hNoSuffix h
  rwa [String.ofList_toList] at hLexes

theorem Lexes.sign {c : Char} {rest : List Char} {found : List Piece} (hSign : c ∈ signs)
    (hRest : Lexes rest found) :
    Lexes (c :: rest)
      (.atom (.punct c (if startsPunct rest then .joint else .alone)) :: found) := by
  have hLead : (signs.all fun c => !isBlank c && !nonatomic.contains c) = true := by decide
  obtain ⟨hBlank, hAtomic⟩ : isBlank c = false ∧ c ∉ nonatomic := by
    simpa using List.all_eq_true.mp hLead c hSign
  exact Lexes.front (List.cons_ne_nil c [])
    (front?_atom hBlank hAtomic (atom?_sign hSign rest)) hRest

theorem Lexes.bracket {c : Char} {piece : Piece} {rest : List Char} {found : List Piece}
    (h : bracket? c = some piece) (hMarker : errorMarker.isPrefixOf (c :: rest) = false)
    (hRest : Lexes rest found) : Lexes (c :: rest) (piece :: found) :=
  Lexes.front (List.cons_ne_nil c []) (front?_bracket h hMarker) hRest

theorem Lexes.colons {rest : List Char} {found : List Piece} (hStarts : startsPunct rest = false)
    (hRest : Lexes rest found) :
    Lexes (':' :: ':' :: rest)
      (.atom (.punct ':' .joint) :: .atom (.punct ':' .alone) :: found) := by
  have hSecond := Lexes.sign (c := ':') (by decide) hRest
  rw [hStarts] at hSecond
  exact Lexes.sign (c := ':') (by decide) hSecond

/-- A byte order mark is no part of a text. -/
theorem Lexes.no_mark {cs : List Char} {found : List Piece} (h : Lexes cs found) :
    ∀ c ∈ cs.head?, c.toNat ≠ 0xfeff := by
  cases cs with
  | nil => simp
  | cons c cs =>
    rintro _ ⟨⟩ hCode
    obtain rfl : c = Char.ofNat 0xfeff := by rw [← hCode, Char.ofNat_toNat]
    have hLiteral : Lexer.literal (Char.ofNat 0xfeff :: cs) = none :=
      literal_eq_none (by simp [string]) (by simp [character]) (by decide)
    have hWord : word? (Char.ofNat 0xfeff :: cs) = none := by
      have hStart : isIdentStart (Char.ofNat 0xfeff) = false := by decide +kernel
      simp [word?, identifier?, identChars, hStart]
    have hAtom : atom? (Char.ofNat 0xfeff :: cs) = none := by
      rw [atom?, hLiteral, punct?_eq_none (by decide), hWord]
    have hFront : front? (Char.ofNat 0xfeff :: cs) = none := by
      rw [front?_cons (by decide), if_neg (by decide),
        if_neg (by simp [errorMarker, List.isPrefixOf]), hAtom]
      rfl
    obtain ⟨located, hLocated, -⟩ := h _ Position.origin (Nat.le_refl _)
    rw [List.length_cons, piecesFrom, hFront] at hLocated
    simp at hLocated

/-! ## Trees -/

mutual

/-- The pieces of a token: a group has its brackets around its content. -/
def tokenPieces : Token → List Piece
  | .atom a => [.atom a]
  | .group d content => .open d :: codePieces content ++ [.close d]

/-- The pieces of code. -/
def codePieces : List Token → List Piece
  | [] => []
  | t :: ts => tokenPieces t ++ codePieces ts

end

mutual

/-- The pieces of one token become one tree. -/
theorem nest_token (t : Token) (located : List (Piece × Span))
    (h : located.map (·.1) = tokenPieces t) (stack : List Pending) (done : List Tree)
    (more : List (Piece × Span)) :
    ∃ tree, Tree.token tree = t ∧ nest stack done (located ++ more)
      = nest stack (tree :: done) more := by
  cases t with
  | atom a =>
    rw [tokenPieces] at h
    obtain ⟨⟨_, span⟩, rest, rfl, hPiece, hRest⟩ := List.map_eq_cons_iff.mp h
    obtain rfl := List.map_eq_nil_iff.mp hRest
    cases hPiece
    exact ⟨.leaf a span, rfl, by cases stack <;> rfl⟩
  | group d content =>
    rw [tokenPieces] at h
    obtain ⟨front, back, rfl, hFront, hBack⟩ := List.map_eq_append_iff.mp h
    obtain ⟨⟨_, opening⟩, inside, rfl, hOpen, hInside⟩ := List.map_eq_cons_iff.mp hFront
    obtain ⟨⟨_, closing⟩, rest, rfl, hClose, hRest⟩ := List.map_eq_cons_iff.mp hBack
    obtain rfl := List.map_eq_nil_iff.mp hRest
    cases hOpen
    cases hClose
    -- the content is nested on its own, behind its bracket
    obtain ⟨trees, hTrees, hNest⟩ :=
      nest_code content inside hInside (⟨d, opening, done⟩ :: stack) []
        ((.close d, closing) :: more)
    refine ⟨.group d trees opening closing, by rw [Tree.token, hTrees], ?_⟩
    rw [List.append_nil] at hNest
    rw [List.append_assoc, List.cons_append, nest, List.singleton_append, hNest, nest, if_pos rfl,
      List.reverse_reverse]

/-- The pieces of code become its trees. -/
theorem nest_code (code : List Token) (located : List (Piece × Span))
    (h : located.map (·.1) = codePieces code) (stack : List Pending) (done : List Tree)
    (more : List (Piece × Span)) :
    ∃ trees, Tree.codeOf trees = code
      ∧ nest stack done (located ++ more) = nest stack (trees.reverse ++ done) more := by
  cases code with
  | nil =>
    obtain rfl := List.map_eq_nil_iff.mp h
    exact ⟨[], rfl, rfl⟩
  | cons t ts =>
    rw [codePieces] at h
    obtain ⟨first, rest, rfl, hFirst, hRest⟩ := List.map_eq_append_iff.mp h
    obtain ⟨tree, hTree, hFirst⟩ := nest_token t first hFirst stack done (rest ++ more)
    obtain ⟨trees, hTrees, hRest⟩ := nest_code ts rest hRest stack (tree :: done) more
    refine ⟨tree :: trees, by rw [Tree.codeOf, hTree, hTrees], ?_⟩
    rw [List.append_assoc, hFirst, hRest, List.reverse_cons, List.append_assoc]
    rfl

end

/-- **A text that consists of the pieces of some code is read as that code.** -/
theorem forest?_of_lexes {text : String} {code : Code} (h : Lexes text.toList (codePieces code)) :
    ∃ trees, forest? text = some trees ∧ Tree.codeOf trees = code := by
  obtain ⟨located, hLocated, hFound⟩ := h text.toList.length Position.origin (Nat.le_refl _)
  have hPieces : pieces text.toList = some located := by
    unfold pieces
    split
    case h_1 hNil =>
      rw [hNil] at hLocated
      exact hLocated
    case h_2 c rest hCons =>
      rw [if_neg (h.no_mark c (by rw [hCons]; rfl)), hLocated]
  obtain ⟨trees, hTrees, hNest⟩ := nest_code code located hFound [] [] []
  refine ⟨trees, ?_, hTrees⟩
  rw [forest?, hPieces]
  show nest [] [] located = _
  rw [← List.append_nil located, hNest, nest, List.append_nil, List.reverse_reverse]

end Overlay.Lexer
