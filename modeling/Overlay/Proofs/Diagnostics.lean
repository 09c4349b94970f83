import Overlay.Derive.Error
import Overlay.Proofs.WrittenTokens

/-!
How an error reaches the user.

A rejected declaration is replaced by `:: core :: compile_error ! { "…" }`, and the compiler shows
the text that the literal stands for.  Names and messages may hold anything: quotes, backslashes,
null characters in front of digits, marks that would join the character before them.  All of it goes
through the literal and comes back.

1. **Printing**: the text of a diagnostic is its literal between two fixed texts
   (`text_diagnostic`).
2. **Reading**: the literal stands for the message (`stringLiteral_quote`), and the text as a whole
   is read back as the tokens that were printed (`diagnostic_lexes`).
3. **No confusion**: from the text of a diagnostic the message can be told (`text_diagnostic_inj`).
-/

namespace Overlay

namespace DeriveError

open Lexer

/-- What stands in front of the literal of a diagnostic. -/
def diagnosticFront : String := ":: core :: compile_error ! \x7b "

/-- What stands behind it. -/
def diagnosticBack : String := " \x7d"

theorem text_diagnostic (message : String) :
    (diagnostic message).text = diagnosticFront ++ Text.quote message ++ diagnosticBack := by
  rw [← String.toList_inj, Code.text, String.toList_ofList]
  simp [diagnostic, Token.sign, Token.charsOf, Token.chars, Token.gluesRight, Token.literal,
    Atom.text, Ident.text, Delimiter.opening, Delimiter.closing, diagnosticFront, diagnosticBack]

/-- **Diagnostics that look the same say the same.** -/
theorem text_diagnostic_inj {message other : String}
    (h : (diagnostic message).text = (diagnostic other).text) :
    message = other := by
  rw [text_diagnostic, text_diagnostic] at h
  have hQuote : Text.quote message = Text.quote other := by
    simpa [← String.toList_inj, String.toList_append] using h
  have hValue := (Text.stringLiteral_quote message).stringValue?_eq
  rw [hQuote, (Text.stringLiteral_quote other).stringValue?_eq] at hValue
  exact String.toList_inj.mp (Option.some.inj hValue).symm

/-- **A diagnostic is read back token by token.**  The text is taken apart from its end: closing
brace, literal, opening brace, and the path of the macro. -/
theorem diagnostic_lexes (message : String) :
    Lexes (diagnostic message).text.toList (codePieces (diagnostic message)) := by
  have hClose : Lexes [' ', '\x7d'] [.close .brace] := .blank (.bracket rfl rfl .nil)
  have hLiteral := Lexes.literal_before (Text.stringLiteral_quote message) (by decide) hClose
  have hBrace := Lexes.bracket (c := '\x7b') rfl rfl (.blank hLiteral)
  have hBang := Lexes.sign (c := '!') (by decide) (.blank hBrace)
  have hError := Lexes.word_before "compile_error" (by decide +kernel) (by decide) (by decide)
    (.blank hBang)
  have hMacro := Lexes.colons rfl (.blank hError)
  have hCore := Lexes.word_before "core" (by decide +kernel) (by decide) (by decide) (.blank hMacro)
  have hText : (diagnostic message).text.toList
      = ':' :: ':' :: ' ' :: ("core".toList ++ ' ' :: ':' :: ':' :: ' '
          :: ("compile_error".toList ++ ' ' :: '!' :: ' '
          :: '\x7b' :: ' ' :: ((Text.quote message).toList ++ [' ', '\x7d']))) := by
    rw [text_diagnostic]
    simp [diagnosticFront, diagnosticBack]
  rw [hText]
  exact .colons rfl (.blank hCore)

end DeriveError

/-- **Diagnostics reach the user intact.**  For every error, whatever its names and its message,
    (1) its code is `:: core :: compile_error ! { … }` around one literal, and it is printed like
        that;
    (2) by the rules of string literals that literal stands for the wording of the error, and it is
        read as such; for a malformed attribute this is the message of the inner problem;
    (3) from the printed text the same tokens are read again;
    (4) errors of different wordings are never printed the same. -/
theorem diagnostics_reach_user_intact (e : DeriveError) :
    ∃ literal : String,
      e.code = Token.sign [':', ':'] ++ .word "core" :: Token.sign [':', ':']
          ++ [.word "compile_error", .punct '!', .group .brace [.literal literal]]
        ∧ e.code.text = ":: core :: compile_error ! \x7b " ++ literal ++ " \x7d"
        ∧ Text.StringLiteral literal.toList e.message.toList
        ∧ Text.stringValue? literal.toList = some e.message.toList
        ∧ (∀ fault, e = .invalidAttribute fault →
            Text.stringValue? literal.toList = some fault.problem.message.toList)
        ∧ (∃ trees, Lexer.forest? e.code.text = some trees ∧ Tree.codeOf trees = e.code)
        ∧ ∀ other : DeriveError, other.code.text = e.code.text ↔ other.message = e.message := by
  have hLiteral := Text.stringLiteral_quote e.message
  refine ⟨Text.quote e.message, rfl, DeriveError.text_diagnostic e.message, hLiteral,
    hLiteral.stringValue?_eq, ?_, Lexer.forest?_of_lexes (DeriveError.diagnostic_lexes e.message),
    fun other => ⟨?_, ?_⟩⟩
  · rintro fault rfl
    exact hLiteral.stringValue?_eq
  · exact DeriveError.text_diagnostic_inj
  · intro hMessage
    rw [DeriveError.code, hMessage, DeriveError.code]

/-- A message with a null character in front of a digit, a quote, a backslash, an accent that would
join the backslash, an apostrophe and the end of a line. -/
theorem diagnostics_reach_user_intact_when_odd :
    let message := "\x007\"\\\u0301'\n"
    let e : DeriveError := .invalidAttribute ⟨.refused message, default⟩
    ∃ literal : String, e.code.text = ":: core :: compile_error ! \x7b " ++ literal ++ " \x7d"
      ∧ e.code.text = ":: core :: compile_error ! \x7b \"\\x007\\\"\\\\\\u\x7b301\x7d'\\n\" \x7d"
      ∧ Text.stringValue? literal.toList = some message.toList := by
  intro message e
  obtain ⟨literal, -, hText, -, -, hInner, -⟩ := diagnostics_reach_user_intact e
  exact ⟨literal, hText, by decide +kernel, hInner _ rfl⟩

end Overlay
