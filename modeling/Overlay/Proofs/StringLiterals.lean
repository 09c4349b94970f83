import Overlay.Lexer.Comment
import Overlay.Text.Escape
import Overlay.Text.Quoted

/-!
String literals, and the texts that they stand for.

What a literal may hold is said here once more, by rules: `Content` for the inside of a quoted
literal, with an `Escape` behind every backslash, and `RawContent` for the inside of a raw one.  A
text has many spellings by these rules, and the automaton that reads literals understands all of
them.

READING   the automaton walks from phase to phase (`Walks`); an escape takes it from behind the
          backslash back to the plain phase (`Escape.walks`), from which the rest of the content is
          read (`Content.scanQuoted_eq`).
WRITING   `escape` is one of the spellings (`content_escape`), whatever the text.

Together: a literal stands for its text (`StringLiteral.stringValue?_eq`), and every text has a
literal (`stringLiteral_quote`).
-/

namespace Overlay.Text

/-! ## The rules -/

/-- Digits between the braces of `\u`: how many there are, and the number that they spell.  Behind
the first one there may be underscores. -/
inductive CodeDigits : List Char → Nat → Nat → Prop
  | first {c : Char} {d : Nat} (hDigit : hexValue? c = some d) : CodeDigits [c] 1 d
  | digit {written : List Char} {count value : Nat} {c : Char} {d : Nat}
      (hFront : CodeDigits written count value)
      (hDigit : hexValue? c = some d) : CodeDigits (written ++ [c]) (count + 1) (value * 16 + d)
  | underscore {written : List Char} {count value : Nat} (hFront : CodeDigits written count value) :
      CodeDigits (written ++ ['_']) count value

/-- What may follow a backslash, and the character that it stands for then. -/
inductive Escape : List Char → Char → Prop
  | lineFeed : Escape ['n'] '\n'
  | carriageReturn : Escape ['r'] '\r'
  | tab : Escape ['t'] '\t'
  | null : Escape ['0'] (Char.ofNat 0)
  | itself {c : Char} (hChar : c = '\\' ∨ c = '\'' ∨ c = '"') : Escape [c] c
  | ascii {c d : Char} {high low : Nat} (hHigh : hexValue? c = some high) (hAscii : high < 8)
      (hLow : hexValue? d = some low) : Escape ['x', c, d] (Char.ofNat (high * 16 + low))
  | code {digits : List Char} {count value : Nat} (hDigits : CodeDigits digits count value)
      (hCount : count ≤ 6)
      (hValid : value.isValidChar) : Escape ('u' :: '\x7b' :: digits ++ ['\x7d']) (Char.ofNat value)

/-- The end of a line. -/
inductive LineEnd : List Char → Prop
  | feed : LineEnd ['\n']
  | carriage : LineEnd ['\r', '\n']

/-- The blanks that a backslash at the end of a line hides: those in front of the next character
that is shown, in any number of lines. -/
inductive Hidden : List Char → Prop
  | nil : Hidden []
  | blank {c : Char} {blanks : List Char} (hBlank : c = ' ' ∨ c = '\t') (h : Hidden blanks) :
      Hidden (c :: blanks)
  | lineEnd {ending blanks : List Char} (hEnd : LineEnd ending) (h : Hidden blanks) :
      Hidden (ending ++ blanks)

/-- A character that is not shown behind a backslash at the end of a line. -/
def isHidden (c : Char) : Bool := c = ' ' || c = '\t' || c = '\n' || c = '\r'

/-- The inside of a quoted literal, and the text that it stands for. -/
inductive Content : List Char → List Char → Prop
  | nil : Content [] []
  | char {c : Char} {written value : List Char} (hChar : c ≠ '"' ∧ c ≠ '\\' ∧ c ≠ '\r')
      (hRest : Content written value) : Content (c :: written) (c :: value)
  | lineEnd {written value : List Char} (hRest : Content written value) :
      Content ('\r' :: '\n' :: written) ('\n' :: value)
  | escaped {escape written value : List Char} {c : Char} (hEscape : Escape escape c)
      (hRest : Content written value) : Content ('\\' :: escape ++ written) (c :: value)
  | continued {ending blanks written value : List Char} (hEnd : LineEnd ending)
      (hBlanks : Hidden blanks) (hShown : ∀ c ∈ written.head?, isHidden c = false)
      (hRest : Content written value) :
      Content ('\\' :: (ending ++ blanks) ++ written) value

/-- The inside of a raw literal between so many hash signs, which stands for itself: its end must
not stand in it, and a carriage return only at the end of a line. -/
structure RawContent (hashes : Nat) (written : List Char) : Prop where
  open_ : ¬ '"' :: List.replicate hashes '#' <:+: written
  lines : Lexer.carriagesPaired written = true

/-- A string literal, and the text that it stands for. -/
inductive StringLiteral : List Char → List Char → Prop
  | quoted {written value : List Char} (hContent : Content written value) :
      StringLiteral ('"' :: written ++ ['"']) value
  | raw {hashes : Nat} {written : List Char} (hHashes : hashes ≤ 255)
      (hContent : RawContent hashes written) :
      StringLiteral ('r' :: List.replicate hashes '#' ++ '"' :: written ++ '"'
        :: List.replicate hashes '#') written

/-! ## Reading -/

/-- The written characters and their value in front of what was read. -/
def Scanned.prepend (written value : List Char) (s : Scanned) : Scanned :=
  ⟨written ++ s.written, value ++ s.value, s.rest⟩

/-- In one phase, the automaton reads these characters with this value, and is in another phase
then. -/
def Walks (phase : Phase) (written value : List Char) (next : Phase) : Prop :=
  ∀ more, scanQuoted .text phase (written ++ more)
    = (scanQuoted .text next more).map (Scanned.prepend written value)

variable {phase middle next : Phase} {c : Char}

theorem Walks.of_step {emitted : Option Char} (hOpen : (phase.mayClose && c = '"') = false)
    (hStep : phase.step .text c = some (next, emitted)) : Walks phase [c] emitted.toList next := by
  intro more
  rw [List.singleton_append, scanQuoted, hOpen, hStep]
  rfl

/-- A character that completes nothing. -/
theorem Walks.silent (hOpen : (phase.mayClose && c = '"') = false)
    (hStep : phase.step .text c = some (next, none)) :
    Walks phase [c] [] next :=
  .of_step hOpen hStep

/-- A character that completes one of the value. -/
theorem Walks.emit {d : Char} (hOpen : (phase.mayClose && c = '"') = false)
    (hStep : phase.step .text c = some (next, some d)) : Walks phase [c] [d] next :=
  .of_step hOpen hStep

theorem Walks.trans {written value written' value' : List Char}
    (h : Walks phase written value middle) (h' : Walks middle written' value' next) :
    Walks phase (written ++ written') (value ++ value') next := by
  intro more
  rw [List.append_assoc, h, h', Option.map_map]
  refine congrArg (Option.map · _) (funext fun s => ?_)
  rw [Function.comp_apply, Scanned.prepend, Scanned.prepend, Scanned.prepend, List.append_assoc,
    List.append_assoc]

theorem Walks.scanQuoted_eq {written value more : List Char} {s : Scanned}
    (h : Walks phase written value next) (hMore : scanQuoted .text next more = some s) :
    scanQuoted .text phase (written ++ more) = some (s.prepend written value) := by
  rw [h, hMore]
  rfl

theorem CodeDigits.count_pos {written : List Char} {count value : Nat}
    (h : CodeDigits written count value) :
    0 < count := by
  induction h with
  | first => exact Nat.one_pos
  | digit => exact Nat.succ_pos _
  | underscore _ ih => exact ih

theorem CodeDigits.walks {written : List Char} {count value : Nat}
    (h : CodeDigits written count value) (hCount : count ≤ 6) :
    Walks (.code 0 0) written [] (.code count value) := by
  induction h with
  | first hDigit => exact .silent rfl (by simp [Phase.step, Phase.stepCode, hDigit])
  | @digit _ count _ _ _ hFront hDigit ih =>
    have hMore : count ≠ 6 := by omega
    exact (ih (by omega)).trans (.silent rfl (by simp [Phase.step, Phase.stepCode, hDigit, hMore]))
  | @underscore _ count _ hFront ih =>
    have hSome : count ≠ 0 := Nat.ne_of_gt hFront.count_pos
    have hNoDigit : hexValue? '_' = none := by decide
    exact (ih hCount).trans (.silent rfl (by simp [Phase.step, Phase.stepCode, hNoDigit, hSome]))

/-- **An escape is read as its character.** -/
theorem Escape.walks {written : List Char} {c : Char} (h : Escape written c) :
    Walks .escape written [c] .plain := by
  cases h with
  | lineFeed => exact .emit rfl rfl
  | carriageReturn => exact .emit rfl rfl
  | tab => exact .emit rfl rfl
  | null => exact .emit rfl rfl
  | itself hChar => rcases hChar with rfl | rfl | rfl <;> exact .emit rfl rfl
  | @ascii c d high low hHigh hAscii hLow =>
    have hMark : Walks .escape ['x'] [] .hex := .silent rfl rfl
    have hFirst : Walks .hex [c] [] (.hexSecond high) :=
      .silent rfl (by simp [Phase.step, hHigh, hAscii])
    have hSecond : Walks (.hexSecond high) [d] [Char.ofNat (high * 16 + low)] .plain :=
      .emit rfl (by simp [Phase.step, Phase.stepHexSecond, hLow])
    exact hMark.trans (hFirst.trans hSecond)
  | @code digits count value hDigits hCount hValid =>
    have hMark : Walks .escape ['u'] [] .brace := .silent rfl rfl
    have hBrace : Walks .brace ['\x7b'] [] (.code 0 0) := .silent rfl rfl
    have hNoDigit : hexValue? '\x7d' = none := by decide
    have hSome : count ≠ 0 := Nat.ne_of_gt hDigits.count_pos
    have hEnd : Walks (.code count value) ['\x7d'] [Char.ofNat value] .plain :=
      .emit rfl (by simp [Phase.step, Phase.stepCode, hNoDigit, hSome, hValid])
    exact hMark.trans (hBrace.trans ((hDigits.walks hCount).trans hEnd))

/-- The end of a line is hidden, directly behind the backslash and among the blanks. -/
theorem LineEnd.walks {ending : List Char} (h : LineEnd ending)
    (hPhase : phase = .escape ∨ phase = .gap) :
    Walks phase ending [] .gap := by
  have hFeed : Walks .gapCarriage ['\n'] [] .gap := .silent rfl rfl
  cases h with
  | feed => rcases hPhase with rfl | rfl <;> exact .silent rfl rfl
  | carriage =>
    have hReturn : Walks phase ['\r'] [] .gapCarriage := by
      rcases hPhase with rfl | rfl <;> exact .silent rfl rfl
    exact hReturn.trans hFeed

/-- Hidden blanks have no value. -/
theorem Hidden.walks {blanks : List Char} (h : Hidden blanks) : Walks .gap blanks [] .gap := by
  induction h with
  | nil =>
    intro more
    exact Option.map_id'.symm
  | @blank c blanks hBlank h ih =>
    have hFirst : Walks .gap [c] [] .gap := by
      rcases hBlank with rfl | rfl <;> exact .silent rfl rfl
    exact hFirst.trans ih
  | lineEnd hEnd h ih => exact (hEnd.walks (.inr rfl)).trans ih

/-- In front of anything but a blank, hidden blanks have ended. -/
theorem scanQuoted_gap {cs : List Char} (hShown : ∀ c ∈ cs.head?, isHidden c = false) :
    scanQuoted .text .gap cs = scanQuoted .text .plain cs := by
  cases cs with
  | nil => rfl
  | cons c cs =>
    have hHidden : isHidden c = false := hShown c rfl
    simp only [isHidden, Bool.or_eq_false_iff, decide_eq_false_iff_not] at hHidden
    simp [scanQuoted, Phase.mayClose, Phase.step, hHidden]

/-- **The inside of a quoted literal is read as the text that it stands for**, up to the quote
behind it. -/
theorem Content.scanQuoted_eq {written value : List Char} (h : Content written value)
    (rest : List Char) :
    scanQuoted .text .plain (written ++ '"' :: rest) = some ⟨written ++ ['"'], value, rest⟩ := by
  induction h with
  | nil => rfl
  | @char c _ _ hChar _ ih =>
    have hFirst : Walks .plain [c] [c] .plain :=
      .emit (by simp [hChar]) (by simp [Phase.step, Phase.stepPlain, hChar, Phase.admits])
    exact hFirst.scanQuoted_eq ih
  | lineEnd _ ih =>
    have hFirst : Walks .plain ['\r'] [] .carriage := .silent rfl rfl
    have hSecond : Walks .carriage ['\n'] ['\n'] .plain := .emit rfl rfl
    exact (hFirst.trans hSecond).scanQuoted_eq ih
  | @escaped escape written value c hEscape _ ih =>
    have hFirst : Walks .plain ['\\'] [] .escape := .silent rfl rfl
    have hWalks : Walks .plain ('\\' :: escape) [c] .plain := hFirst.trans hEscape.walks
    rw [List.append_assoc, List.append_assoc]
    exact hWalks.scanQuoted_eq ih
  | @continued ending blanks written value hLine hBlanks hShown hRest ih =>
    have hFirst : Walks .plain ['\\'] [] .escape := .silent rfl rfl
    have hHidden : Walks .escape (ending ++ blanks) [] .gap :=
      (hLine.walks (.inl rfl)).trans hBlanks.walks
    have hWalks : Walks .plain ('\\' :: (ending ++ blanks)) [] .gap := hFirst.trans hHidden
    have hEnd : ∀ c ∈ (written ++ '"' :: rest).head?, isHidden c = false := by
      cases written with
      | nil => rintro c ⟨⟩; rfl
      | cons d written => exact hShown
    rw [List.append_assoc, List.append_assoc]
    exact hWalks.scanQuoted_eq ((scanQuoted_gap hEnd).trans ih)

theorem rawOpening?_replicate {hashes : Nat} (hHashes : hashes ≤ 255) (rest : List Char) :
    rawOpening? (List.replicate hashes '#' ++ '"' :: rest) = some (hashes, rest) := by
  have hTake : (List.replicate hashes '#' ++ '"' :: rest).takeWhile (· = '#')
      = List.replicate hashes '#' := by
    rw [List.takeWhile_append_of_pos fun c hc => decide_eq_true (List.eq_of_mem_replicate hc)]
    exact List.append_nil _
  have hDrop : (List.replicate hashes '#' ++ '"' :: rest).dropWhile (· = '#') = '"' :: rest :=
    List.dropWhile_append_of_pos fun c hc => decide_eq_true (List.eq_of_mem_replicate hc)
  simp [rawOpening?, hTake, hDrop, hHashes]

/-- Where hash signs reach up to a quote, they all stand in front of it. -/
theorem replicate_prefix_of_take {hashes : Nat} {written rest : List Char}
    (h : (written ++ '"' :: rest).take hashes = List.replicate hashes '#') :
    List.replicate hashes '#' <+: written := by
  induction hashes generalizing written with
  | zero => exact List.nil_prefix
  | succ hashes ih =>
    cases written with
    | nil => simp [List.replicate_succ] at h
    | cons c written =>
      obtain ⟨rfl, hRest⟩ := List.cons.inj h
      exact List.cons_prefix_cons.mpr ⟨rfl, ih hRest⟩

/-- A character that is neither the end nor a carriage return. -/
theorem scanRaw_cons {hashes : Nat} {c : Char} {cs : List Char} {s : Scanned} (hCarriage : c ≠ '\r')
    (hOpen : ¬ (c = '"' ∧ cs.take hashes = List.replicate hashes '#'))
    (hRest : scanRaw .text hashes cs = some s) :
    scanRaw .text hashes (c :: cs) = some (s.push c (some c)) := by
  have hGoes : (c = '"' && cs.take hashes = List.replicate hashes '#') = false := by
    simpa using hOpen
  rw [scanRaw, hGoes]
  · simp [hCarriage, hRest, Phase.admits]
  · rintro _ rfl
    exact absurd rfl hCarriage

/-- **The inside of a raw literal is read as it stands**, up to the quote and the hash signs behind
it. -/
theorem RawContent.scanRaw_eq {hashes : Nat} {written : List Char} (h : RawContent hashes written)
    (rest : List Char) :
    scanRaw .text hashes (written ++ '"' :: (List.replicate hashes '#' ++ rest))
      = some ⟨written ++ '"' :: List.replicate hashes '#', written, rest⟩ := by
  obtain ⟨hOpen, hLines⟩ := h
  fun_induction Lexer.carriagesPaired written with
  | case1 =>
    have hEnd : (List.replicate hashes '#' ++ rest).take hashes = List.replicate hashes '#' :=
      List.take_left' List.length_replicate
    have hRest : (List.replicate hashes '#' ++ rest).drop hashes = rest :=
      List.drop_left' List.length_replicate
    simp [scanRaw, hEnd, hRest]
  | case2 cs ih =>
    have hTail : ¬ '"' :: List.replicate hashes '#' <:+: cs := fun h =>
      hOpen (h.trans ⟨['\r', '\n'], [], by simp⟩)
    show (scanRaw .text hashes (cs ++ _)).map _ = _
    rw [ih hTail hLines]
    rfl
  | case3 c cs _ ih =>
    obtain ⟨hCarriage, hLines⟩ : c ≠ '\r' ∧ Lexer.carriagesPaired cs = true := by simpa using hLines
    have hTail : ¬ '"' :: List.replicate hashes '#' <:+: cs :=
      fun h => hOpen (h.trans ⟨[c], [], by simp⟩)
    refine scanRaw_cons hCarriage ?_ (ih hTail hLines)
    rintro ⟨rfl, hEnd⟩
    exact hOpen (List.cons_prefix_cons.mpr ⟨rfl, replicate_prefix_of_take hEnd⟩).isInfix

/-- **A literal stands for its text.** -/
theorem StringLiteral.stringValue?_eq {literal value : List Char}
    (h : StringLiteral literal value) :
    stringValue? literal = some value := by
  cases h with
  | @quoted written _ hContent =>
    show (scanQuoted .text .plain (written ++ '"' :: [])).map Scanned.value = _
    rw [hContent.scanQuoted_eq]
    rfl
  | @raw hashes _ hHashes hContent =>
    have hScanned := hContent.scanRaw_eq []
    rw [List.append_nil] at hScanned
    rw [List.append_assoc, List.cons_append]
    simp [stringValue?, rawOpening?_replicate hHashes, hScanned]

/-! ## Writing -/

theorem codeDigits_hexDigits (n : Nat) : CodeDigits (hexDigits n) (hexDigits n).length n := by
  fun_induction hexDigits n with
  | case1 n h => exact .first (hexValue?_hexDigit n h)
  | case2 n h ih =>
    have hDigits := ih.digit (hexValue?_hexDigit (n % 16) (Nat.mod_lt n (by decide)))
    rw [List.length_append, List.length_singleton]
    rwa [Nat.div_add_mod' n 16] at hDigits

theorem length_hexDigits_le {n k : Nat} (h : n < Nat.pow 16 (k + 1)) :
    (hexDigits n).length ≤ k + 1 := by
  induction k generalizing n with
  | zero =>
    rw [hexDigits, if_pos (by simpa using h)]
    exact Nat.le_refl 1
  | succ k ih =>
    have hFront : n / 16 < Nat.pow 16 (k + 1) := Nat.div_lt_of_lt_mul (Nat.mul_comm 16 _ ▸ h)
    rw [hexDigits]
    split
    · exact Nat.succ_pos _
    · rw [List.length_append, List.length_singleton]
      exact Nat.succ_le_succ (ih hFront)

/-- A character is written as it is, or as an escape that stands for it. -/
theorem escapeChar_spells (c : Char) (following : Option Char) :
    escapeChar c following = [c] ∧ (c ≠ '"' ∧ c ≠ '\\' ∧ c ≠ '\r')
      ∨ ∃ written, escapeChar c following = '\\' :: written ∧ Escape written c := by
  have hCode : Escape ('u' :: '\x7b' :: hexDigits c.toNat ++ ['\x7d']) c := by
    have hBound : c.toNat < Nat.pow 16 (5 + 1) := by
      have hValid : c.toNat < 0xd800 ∨ 0xdfff < c.toNat ∧ c.toNat < 0x110000 := c.valid
      show c.toNat < 16777216
      omega
    have hCode := Escape.code (codeDigits_hexDigits c.toNat) (length_hexDigits_le hBound) c.valid
    rwa [Char.ofNat_toNat] at hCode
  unfold escapeChar
  split
  case isTrue hNull =>
    obtain rfl : c = Char.ofNat 0 := by rw [← hNull, Char.ofNat_toNat]
    have hShort : Escape ['0'] (Char.ofNat 0) := .null
    have hZero : hexValue? '0' = some 0 := rfl
    have hLong : Escape ['x', '0', '0'] (Char.ofNat 0) := .ascii hZero (by decide) hZero
    split
    · split
      · exact .inr ⟨_, rfl, hLong⟩
      · exact .inr ⟨_, rfl, hShort⟩
    · exact .inr ⟨_, rfl, hShort⟩
  case isFalse =>
    by_cases hTab : c = '\t'
    · subst hTab; exact .inr ⟨_, rfl, .tab⟩
    by_cases hReturn : c = '\r'
    · subst hReturn; exact .inr ⟨_, rfl, .carriageReturn⟩
    by_cases hFeed : c = '\n'
    · subst hFeed; exact .inr ⟨_, rfl, .lineFeed⟩
    by_cases hQuote : c = '"'
    · subst hQuote; exact .inr ⟨_, rfl, .itself (by decide)⟩
    by_cases hSlash : c = '\\'
    · subst hSlash; exact .inr ⟨_, rfl, .itself (by decide)⟩
    rw [if_neg hTab, if_neg hReturn, if_neg hFeed, if_neg hQuote, if_neg hSlash]
    split
    · exact .inl ⟨rfl, hQuote, hSlash, hReturn⟩
    · exact .inr ⟨_, rfl, hCode⟩

/-- **What is written spells the text**, character by character. -/
theorem content_escape (text : List Char) : Content (escape text) text := by
  induction text with
  | nil => exact .nil
  | cons c cs ih =>
    rcases escapeChar_spells c cs.head? with ⟨hSame, hPlain⟩ | ⟨written, hWritten, hEscape⟩
    · rw [escape, hSame]
      exact .char hPlain ih
    · rw [escape, hWritten]
      exact .escaped hEscape ih

/-- **Every text has a literal.** -/
theorem stringLiteral_quote (text : String) : StringLiteral (quote text).toList text.toList := by
  rw [quote, String.toList_ofList]
  exact .quoted (content_escape text.toList)

end Overlay.Text
