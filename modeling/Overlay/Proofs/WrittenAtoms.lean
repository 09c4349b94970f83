import Overlay.Lexer.Piece
import Overlay.Proofs.StringLiterals

/-!
Atoms in a text: words, string literals and signs.

Where one of them ends is decided by what follows.  A word goes on as long as characters of
identifiers do, and with a quote or a hash sign behind it, it might be the opening of a literal; a
literal takes a word behind it along as its suffix; a sign is joint or not.  So each kind of atom is
read back in front of any text that does not prolong it:

1. **Characters**: blanks, punctuation, brackets and quotes are in no identifier (`wordless`).  The
   tables of Unicode are looked at once for all of them (`wordless_avoided`).
2. **Words**: `atom?_word`, for raw words and others, up to a text that `EndsWord`.
3. **Literals and signs**: `atom?_literal` for every spelling of a string, `atom?_sign` for
   punctuation.
-/

namespace Overlay

/-! ## Characters that are in no identifier -/

namespace Unicode

/-- No range of the set meets the stretch from `low` to `high`. -/
def Ranges.avoids (ranges : Ranges) (low high : Nat) : Bool :=
  ranges.all fun range => Nat.blt high range.1 || Nat.blt range.2 low

theorem Ranges.covers_of_avoids {ranges : Ranges} {low high code : Nat}
    (h : ranges.avoids low high = true) (hLow : low ≤ code) (hHigh : code ≤ high) :
    ranges.covers code = false := by
  rw [Ranges.covers, List.any_eq_false]
  intro range hRange
  have hApart := List.all_eq_true.mp h range hRange
  simp only [Bool.or_eq_true, Nat.blt_eq] at hApart
  simp only [Bool.and_eq_true, decide_eq_true_eq]
  omega

/-- Blanks, punctuation, brackets and quotes: stretches without a character of an identifier. -/
def wordless : Ranges :=
  whiteSpace ++ [(0x200e, 0x200f), (0x21, 0x2f), (0x3a, 0x40), (0x5b, 0x5e), (0x7b, 0x7e)]

theorem wordless_avoided :
    (wordless.all fun stretch =>
      identStart.avoids stretch.1 stretch.2 && identContinueOnly.avoids stretch.1 stretch.2)
        = true := by
  decide +kernel

variable {c : Char}

theorem not_isIdentContinue_of_wordless (h : wordless.covers c.toNat = true) :
    isIdentContinue c = false := by
  obtain ⟨stretch, hStretch, hCovers⟩ := List.any_eq_true.mp h
  obtain ⟨hLow, hHigh⟩ : stretch.1 ≤ c.toNat ∧ c.toNat ≤ stretch.2 := by simpa using hCovers
  have hAvoided := List.all_eq_true.mp wordless_avoided stretch hStretch
  obtain ⟨hStart, hOnly⟩ := Bool.and_eq_true_iff.mp hAvoided
  rw [isIdentContinue, Ranges.covers_of_avoids hStart hLow hHigh,
    Ranges.covers_of_avoids hOnly hLow hHigh]
  rfl

/-- A character that opens an identifier may also stand inside. -/
theorem isIdentContinue_of_isIdentStart (h : isIdentStart c = true) : isIdentContinue c = true := by
  rcases Bool.or_eq_true_iff.mp h with hLow | hStart
  · rw [of_decide_eq_true hLow]
    decide +kernel
  · rw [isIdentContinue, hStart]
    rfl

theorem wordless_of_isBlank (h : isBlank c = true) : wordless.covers c.toNat = true := by
  rw [Ranges.covers, wordless, List.any_append, Bool.or_eq_true]
  rw [isBlank, Bool.or_eq_true, Bool.or_eq_true, decide_eq_true_eq, decide_eq_true_eq] at h
  rcases h with (hWhite | hMark) | hMark
  · exact .inl hWhite
  · rw [hMark]
    exact .inr rfl
  · rw [hMark]
    exact .inr rfl

end Unicode

namespace Lexer

open Unicode (isBlank isIdentStart isIdentContinue)

/-- Characters with a meaning of their own: punctuation, brackets and quotes. -/
def marks : List Char := punctuation ++ ['"', '(', ')', '[', ']', '\x7b', '\x7d']

theorem wordless_of_mem_marks {c : Char} (h : c ∈ marks) :
    Unicode.wordless.covers c.toNat = true ∧ isBlank c = false := by
  have hAll : (marks.all fun c => Unicode.wordless.covers c.toNat && !isBlank c) = true := by decide
  simpa using List.all_eq_true.mp hAll c h

section

variable {c : Char}

theorem not_mem_marks_of_isIdentContinue (h : isIdentContinue c = true) : c ∉ marks := by
  intro hMark
  rw [Unicode.not_isIdentContinue_of_wordless (wordless_of_mem_marks hMark).1] at h
  nomatch h

theorem not_mem_marks_of_isBlank (h : isBlank c = true) : c ∉ marks := by
  intro hMark
  rw [(wordless_of_mem_marks hMark).2] at h
  nomatch h

theorem isBlank_eq_false_of_isIdentContinue (h : isIdentContinue c = true) : isBlank c = false := by
  refine Bool.eq_false_iff.mpr fun hBlank => ?_
  rw [Unicode.not_isIdentContinue_of_wordless (Unicode.wordless_of_isBlank hBlank)] at h
  nomatch h

/-- No digit opens an identifier. -/
theorem isDigit_eq_false_of_isIdentStart (h : isIdentStart c = true) : isDigit c = false := by
  have hAvoided : Unicode.identStart.avoids 48 57 = true := by decide +kernel
  refine Bool.eq_false_iff.mpr fun hDigit => ?_
  obtain ⟨hLow, hHigh⟩ := Bool.and_eq_true_iff.mp hDigit
  have hLow : 48 ≤ c.toNat := of_decide_eq_true hLow
  have hHigh : c.toNat ≤ 57 := of_decide_eq_true hHigh
  rcases Bool.or_eq_true_iff.mp h with hUnderscore | hStart
  · rw [of_decide_eq_true hUnderscore] at hHigh
    exact absurd hHigh (by decide)
  · rw [Unicode.Ranges.covers_of_avoids hAvoided hLow hHigh] at hStart
    nomatch hStart

end

/-! ## Words -/

/-- Behind the first letter of a word: no quote and no hash sign, which would make it the opening of
a literal. -/
def Plain (cs : List Char) : Prop := ∀ c ∈ cs.head?, c ≠ '"' ∧ c ≠ '#' ∧ c ≠ '\''

/-- A word ends in front of this text. -/
def EndsWord (rest : List Char) : Prop := Plain rest ∧ ∀ c ∈ rest.head?, isIdentContinue c = false

theorem rawOpening?_eq_none {cs : List Char} (h : Plain cs) : Text.rawOpening? cs = none := by
  cases cs with
  | nil => rfl
  | cons c cs =>
    obtain ⟨hQuote, hHash, -⟩ := h c rfl
    simp [Text.rawOpening?, hQuote, hHash]

theorem string_eq_none {c : Char} {cs : List Char} (hQuote : c ≠ '"') (hPlain : Plain cs)
    (hSecond : ∀ ds, cs = 'r' :: ds → Plain ds) : string (c :: cs) = none := by
  have hNext (d : Char) (ds : List Char) : cs = d :: ds → d ≠ '"' ∧ d ≠ '#' ∧ d ≠ '\'' := by
    rintro rfl
    exact hPlain d rfl
  unfold string
  split
  case h_1 heq => exact absurd (List.cons.inj heq).1 hQuote
  case h_2 heq =>
    obtain ⟨-, rfl⟩ := List.cons.inj heq
    simp [rawTail, rawOpening?_eq_none hPlain, Scanner.cons]
  case h_3 heq => exact absurd rfl (hNext _ _ (List.cons.inj heq).2).1
  case h_4 heq =>
    have := rawOpening?_eq_none (hSecond _ (List.cons.inj heq).2)
    simp [rawTail, this, Scanner.cons]
  case h_5 heq => exact absurd rfl (hNext _ _ (List.cons.inj heq).2).1
  case h_6 heq =>
    have := rawOpening?_eq_none (hSecond _ (List.cons.inj heq).2)
    simp [rawTail, this, Scanner.cons]
  case h_7 => rfl

theorem character_eq_none {c : Char} {cs : List Char} (hQuote : c ≠ '\'') (hPlain : Plain cs) :
    character (c :: cs) = none := by
  unfold character
  split
  case h_1 heq => exact absurd (List.cons.inj heq).1 hQuote
  case h_2 heq =>
    obtain ⟨-, rfl⟩ := List.cons.inj heq
    exact absurd rfl (hPlain _ rfl).2.2
  case h_3 => rfl

theorem number_eq_none {c : Char} {cs : List Char} (hDigit : isDigit c = false) :
    number (c :: cs) = none := by
  have hFloat : floatDigits (c :: cs) = none := by simp [floatDigits, hDigit]
  have hInt : intDigits (c :: cs) = none := by
    have hZero : c ≠ '0' := by
      rintro rfl
      nomatch hDigit
    simp [intDigits, digitsIn, hDigit, hZero]
  simp [number, Scanner.andThen, hFloat, hInt]

theorem literal_eq_none {c : Char} {cs : List Char} (hString : string (c :: cs) = none)
    (hCharacter : character (c :: cs) = none) (hDigit : isDigit c = false) :
    literal (c :: cs) = none := by
  simp [literal, Scanner.andThen, hString, hCharacter, number_eq_none hDigit]

/-- The characters of a word. -/
def isWordChars : List Char → Bool
  | [] => false
  | c :: cs => isIdentStart c && cs.all isIdentContinue

/-- The identifier can be written: its name is a word, and where it is raw it may be. -/
def isWritable (i : Ident) : Bool :=
  isWordChars i.name.toList && !(i.raw && neverRaw.contains i.name)

theorem identChars_append {name rest : List Char} (hName : isWordChars name = true)
    (hRest : EndsWord rest) :
    identChars (name ++ rest) = some (name, rest) := by
  cases name with
  | nil => nomatch hName
  | cons c cs =>
    obtain ⟨hFirst, hMore⟩ := Bool.and_eq_true_iff.mp hName
    have hAll := List.all_eq_true.mp hMore
    have hTake : rest.takeWhile isIdentContinue = [] := by
      cases rest with
      | nil => rfl
      | cons d rest => simp [hRest.2 d rfl]
    have hDrop : rest.dropWhile isIdentContinue = rest := by
      cases rest with
      | nil => rfl
      | cons d rest => simp [hRest.2 d rfl]
    simp [identChars, hFirst, List.takeWhile_append_of_pos hAll, List.dropWhile_append_of_pos hAll,
      hTake, hDrop]

theorem plain_of_isIdentContinue {c : Char} (h : isIdentContinue c = true) (cs : List Char) :
    Plain (c :: cs) := by
  rintro _ ⟨⟩
  have hMarks := not_mem_marks_of_isIdentContinue h
  refine ⟨?_, ?_, ?_⟩
  · rintro rfl; exact hMarks (by decide)
  · rintro rfl; exact hMarks (by decide)
  · rintro rfl; exact hMarks (by decide)

/-- Every further part of a word is plain. -/
theorem plain_append {cs rest : List Char} (hAll : ∀ c ∈ cs, isIdentContinue c = true)
    (hRest : EndsWord rest) :
    Plain (cs ++ rest) := by
  cases cs with
  | nil => exact hRest.1
  | cons c cs => exact plain_of_isIdentContinue (hAll c List.mem_cons_self) _

theorem plain_second {cs ds rest : List Char} (hAll : ∀ c ∈ cs, isIdentContinue c = true)
    (hRest : EndsWord rest) (h : cs ++ rest = 'r' :: ds) : Plain ds := by
  cases cs with
  | nil =>
    -- the letter would belong to the word
    have hEnds := hRest.2 'r' (by rw [List.nil_append] at h; rw [h]; rfl)
    exact absurd hEnds (by decide +kernel)
  | cons c cs =>
    obtain ⟨-, rfl⟩ := List.cons.inj h
    exact plain_append (fun d hd => hAll d (List.mem_cons_of_mem c hd)) hRest

theorem literalOpenings_any_eq_false {c : Char} {cs : List Char} (hPlain : Plain cs)
    (hSecond : ∀ ds, cs = 'r' :: ds → Plain ds) :
    literalOpenings.any (·.isPrefixOf (c :: cs)) = false := by
  cases cs with
  | nil => simp [literalOpenings, List.isPrefixOf]
  | cons d ds =>
    obtain ⟨hQuote, hHash, hApostrophe⟩ := hPlain d rfl
    have hThird (h : 'r' = d) : ['"'].isPrefixOf ds = false ∧ ['#'].isPrefixOf ds = false := by
      subst h
      have hPlain := hSecond ds rfl
      cases ds with
      | nil => exact ⟨rfl, rfl⟩
      | cons e es =>
        obtain ⟨hQuote, hHash, -⟩ := hPlain e rfl
        simp [List.isPrefixOf, hQuote.symm, hHash.symm]
    simp only [literalOpenings, List.any_cons, List.any_nil, List.isPrefixOf,
      beq_eq_false_iff_ne.mpr hQuote.symm, beq_eq_false_iff_ne.mpr hHash.symm,
      beq_eq_false_iff_ne.mpr hApostrophe.symm, Bool.false_and, Bool.and_false,
      Bool.or_false, Bool.false_or]
    by_cases hLetter : 'r' = d
    · simp [hThird hLetter]
    · simp [hLetter]

theorem startsPunct_eq_false {c : Char} (h : c ∉ marks) (cs : List Char) :
    startsPunct (c :: cs) = false := by
  have hPunct : c ∉ punctuation := fun hMem => h (List.mem_append_left _ hMem)
  have hSlash : c ≠ '/' := by
    rintro rfl
    exact hPunct (by decide)
  simp [startsPunct, hSlash, hPunct]

theorem punct?_eq_none {c : Char} (h : c ∉ marks) (cs : List Char) : punct? (c :: cs) = none := by
  rw [punct?, startsPunct_eq_false h, if_neg Bool.false_ne_true]

theorem atom?_of_word? {cs taken rest : List Char} {i : Ident} (hLiteral : literal cs = none)
    (hPunct : punct? cs = none) (hWord : word? cs = some (i, rest))
    (hText : i.text.toList = taken) :
    atom? cs = some (.ident i, taken, rest) := by
  rw [atom?, hLiteral, hPunct, hWord, ← hText]

/-- A word that is not raw. -/
theorem atom?_plain_word {name : String} {rest : List Char} (hName : isWordChars name.toList = true)
    (hRest : EndsWord rest) :
    atom? (name.toList ++ rest) = some (.ident ⟨name, false⟩, name.toList, rest) := by
  have hChars := identChars_append hName hRest
  cases hList : name.toList with
  | nil =>
    rw [hList] at hName
    nomatch hName
  | cons c cs =>
    rw [hList] at hName hChars
    obtain ⟨hFirst, hMore⟩ := Bool.and_eq_true_iff.mp hName
    have hAll := List.all_eq_true.mp hMore
    have hPlain : Plain (cs ++ rest) := plain_append hAll hRest
    have hSecond (ds : List Char) : cs ++ rest = 'r' :: ds → Plain ds := plain_second hAll hRest
    have hMarks : c ∉ marks :=
      not_mem_marks_of_isIdentContinue (Unicode.isIdentContinue_of_isIdentStart hFirst)
    have hQuote : c ≠ '"' := by
      rintro rfl
      exact hMarks (by decide)
    have hApostrophe : c ≠ '\'' := by
      rintro rfl
      exact hMarks (by decide)
    have hIdentifier : identifier? (c :: (cs ++ rest)) = some (⟨name, false⟩, rest) := by
      unfold identifier?
      split
      case h_1 heq => exact absurd rfl (hPlain '#' (by rw [(List.cons.inj heq).2]; rfl)).2.1
      case h_2 =>
        rw [List.cons_append] at hChars
        rw [hChars]
        show some ((⟨String.ofList (c :: cs), false⟩ : Ident), rest) = _
        rw [← hList, String.ofList_toList]
    refine atom?_of_word? (literal_eq_none (string_eq_none hQuote hPlain hSecond)
      (character_eq_none hApostrophe hPlain)
      (isDigit_eq_false_of_isIdentStart hFirst)) (punct?_eq_none hMarks _) ?_ hList
    rw [word?, List.cons_append, literalOpenings_any_eq_false hPlain hSecond,
      if_neg Bool.false_ne_true, hIdentifier]

/-- A raw word. -/
theorem atom?_raw_word {name : String} {rest : List Char} (hName : isWordChars name.toList = true)
    (hRaw : name ∉ neverRaw) (hRest : EndsWord rest) :
    atom? ('r' :: '#' :: name.toList ++ rest)
      = some (.ident ⟨name, true⟩, 'r' :: '#' :: name.toList, rest) := by
  have hChars := identChars_append hName hRest
  cases hList : name.toList with
  | nil =>
    rw [hList] at hName
    nomatch hName
  | cons c cs =>
    rw [hList] at hName hChars
    have hFirst := (Bool.and_eq_true_iff.mp hName).1
    obtain ⟨hQuote, hHash, -⟩ :=
      plain_of_isIdentContinue (Unicode.isIdentContinue_of_isIdentStart hFirst) (cs ++ rest) c rfl
    have hOpening : Text.rawOpening? ('#' :: c :: (cs ++ rest)) = none := by
      simp [Text.rawOpening?, hQuote, hHash]
    have hString : string ('r' :: '#' :: c :: (cs ++ rest)) = none := by
      simp [string, rawTail, hOpening, Scanner.cons]
    have hOpenings : literalOpenings.any (·.isPrefixOf ('r' :: '#' :: c :: (cs ++ rest)))
        = false := by
      simp [literalOpenings, List.isPrefixOf, hQuote.symm, hHash.symm]
    have hIdentifier : identifier? ('r' :: '#' :: c :: (cs ++ rest))
        = some (⟨name, true⟩, rest) := by
      have hBack : String.ofList (c :: cs) = name := by rw [← hList, String.ofList_toList]
      rw [List.cons_append] at hChars
      simp [identifier?, hChars, hBack, hRaw]
    refine atom?_of_word? (literal_eq_none hString rfl (by decide))
      (punct?_eq_none (by decide) _) ?_ ?_
    · rw [List.cons_append, List.cons_append, List.cons_append, word?, hOpenings,
        if_neg Bool.false_ne_true, hIdentifier]
    · rw [← hList]
      exact String.toList_append

/-- **A word that can be written is read**, where a word ends behind it. -/
theorem atom?_word {i : Ident} {rest : List Char} (hWord : isWritable i = true)
    (hRest : EndsWord rest) :
    atom? (i.text.toList ++ rest) = some (.ident i, i.text.toList, rest) := by
  obtain ⟨hName, hRaw⟩ := Bool.and_eq_true_iff.mp hWord
  rcases i with ⟨name, _ | _⟩
  · exact atom?_plain_word hName hRest
  · have hText : (⟨name, true⟩ : Ident).text.toList = 'r' :: '#' :: name.toList :=
      String.toList_append
    rw [hText]
    exact atom?_raw_word hName (by simpa using hRaw) hRest

/-- A word begins with a letter, the `r` of a raw one included. -/
theorem exists_text_eq_cons {i : Ident} (h : isWritable i = true) :
    ∃ c cs, i.text.toList = c :: cs ∧ isIdentStart c = true := by
  rcases i with ⟨name, _ | _⟩
  · show ∃ c cs, name.toList = c :: cs ∧ isIdentStart c = true
    have hName : isWordChars name.toList = true := (Bool.and_eq_true_iff.mp h).1
    cases hList : name.toList with
    | nil =>
      rw [hList] at hName
      nomatch hName
    | cons c cs =>
      rw [hList] at hName
      exact ⟨c, cs, rfl, (Bool.and_eq_true_iff.mp hName).1⟩
  · exact ⟨'r', '#' :: name.toList, String.toList_append, by decide +kernel⟩

/-! ## Literals and signs -/

theorem string_literal {written value : List Char} (h : Text.StringLiteral written value)
    (rest : List Char) :
    string (written ++ rest) = some (written, rest) := by
  cases h with
  | @quoted written _ hContent =>
    have hScanned := hContent.scanQuoted_eq rest
    simp [string, quotedTail, Scanner.cons, hScanned]
  | @raw hashes _ hHashes hContent =>
    have hScanned := hContent.scanRaw_eq rest
    simp [string, rawTail, Scanner.cons, Text.rawOpening?_replicate hHashes, hScanned]

/-- **A string literal is read**, where no suffix stands behind it. -/
theorem atom?_literal {written value rest : List Char} (h : Text.StringLiteral written value)
    (hRest : ∀ c ∈ rest.head?, isIdentStart c = false) :
    atom? (written ++ rest) = some (.literal (String.ofList written), written, rest) := by
  have hSuffix : identChars rest = none := by
    cases rest with
    | nil => rfl
    | cons c rest => simp [identChars, hRest c rfl]
  have hLiteral : literal (written ++ rest) = some (written, rest) := by
    simp [literal, Scanner.andThen, string_literal h, suffix, Scanner.optional, hSuffix]
  rw [atom?, hLiteral]

/-- Punctuation, apart from the slash and the apostrophe, which may open something else. -/
def signs : List Char := punctuation.filter fun c => c ≠ '/' && c ≠ '\''

/-- A sign is read, and glues to the punctuation behind it. -/
theorem atom?_sign {c : Char} (h : c ∈ signs) (rest : List Char) :
    atom? (c :: rest) = some (.punct c (if startsPunct rest then .joint else .alone),
      [c], rest) := by
  have hLead : (signs.all fun c => !(['"', 'r', 'b', 'c', '\'', '/'].contains c || isDigit c))
      = true := by decide
  obtain ⟨hOther, hDigit⟩ : c ∉ ['"', 'r', 'b', 'c', '\'', '/'] ∧ isDigit c = false := by
    simpa using List.all_eq_true.mp hLead c h
  have hPunct : c ∈ punctuation := (List.mem_filter.mp h).1
  simp only [List.mem_cons, List.not_mem_nil, or_false, not_or] at hOther
  have hLiteral : literal (c :: rest) = none :=
    literal_eq_none (by simp [string, hOther]) (by simp [character, hOther]) hDigit
  have hStarts : startsPunct (c :: rest) = true := by simp [startsPunct, hOther, hPunct]
  simp [atom?, hLiteral, punct?, hStarts, hOther]

end Lexer

end Overlay
