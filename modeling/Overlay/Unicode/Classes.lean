import Overlay.Unicode.GraphemeExtend
import Overlay.Unicode.IdentContinue
import Overlay.Unicode.IdentStart
import Overlay.Unicode.Unprintable

/-!
Classes of characters that reading and showing Rust text depends on: what an identifier is made
of, what separates tokens, and what a diagnostic may show as it is.
-/

namespace Overlay.Unicode

/-- A character that may open an identifier; the underscore may, beyond `XID_Start`. -/
def isIdentStart (c : Char) : Bool :=
  c = '_' || identStart.covers c.toNat

/-- A character that may stand inside an identifier.  `XID_Continue` has the underscore. -/
def isIdentContinue (c : Char) : Bool :=
  identStart.covers c.toNat || identContinueOnly.covers c.toNat

/-- The property `White_Space`. -/
def whiteSpace : Ranges :=
  [(0x9, 0xd), (0x20, 0x20), (0x85, 0x85), (0xa0, 0xa0), (0x1680, 0x1680), (0x2000, 0x200a),
   (0x2028, 0x2029), (0x202f, 0x202f), (0x205f, 0x205f), (0x3000, 0x3000)]

/-- White space of any kind, line ends included. -/
def isWhiteSpace (c : Char) : Bool :=
  whiteSpace.covers c.toNat

/-- Blanks between tokens: white space, and the two marks of writing direction. -/
def isBlank (c : Char) : Bool :=
  isWhiteSpace c || c.toNat = 0x200e || c.toNat = 0x200f

/-- A character that joins the one before it into one glyph. -/
def isGraphemeExtend (c : Char) : Bool :=
  graphemeExtend.covers c.toNat

/-- A character with a glyph of its own, or the blank. -/
def isPrintable (c : Char) : Bool :=
  !unprintable.covers c.toNat

/-- The halfwidth sound marks: they extend a grapheme, yet are as wide as a letter. -/
def soundMarks : Ranges := [(0xff9e, 0xff9f)]

/-- The fillers of the Korean script: letters that leave no trace. -/
def fillers : Ranges := [(0x115f, 0x1160), (0x3164, 0x3164), (0xffa0, 0xffa0)]

/-- A character that can be told from what it looks like when it stands alone. -/
def isShown (c : Char) : Bool :=
  isPrintable c && !fillers.covers c.toNat
    && (!isGraphemeExtend c || soundMarks.covers c.toNat)

end Overlay.Unicode
