import FieldProjection.Text.Property.GraphemeExtend
import FieldProjection.Text.Property.IdentifierContinue
import FieldProjection.Text.Property.IdentifierStart
import FieldProjection.Text.Property.Unprintable

/-!
# Character properties

Membership of a character in the Unicode properties that the library consults: white space, the
characters of identifiers, and the characters that are escaped in quoted text.
-/

namespace FieldProjection.Text

/-- Whether a character lies in one of the inclusive ranges. -/
def inRanges (ranges : List (Nat × Nat)) (char : Char) : Bool :=
  ranges.any fun range => range.1 ≤ char.toNat && char.toNat ≤ range.2

/-- The Unicode property White_Space. -/
def isBlank (char : Char) : Bool :=
  inRanges [(0x9, 0xD), (0x20, 0x20), (0x85, 0x85), (0xA0, 0xA0), (0x1680, 0x1680),
    (0x2000, 0x200A), (0x2028, 0x2029), (0x202F, 0x202F), (0x205F, 0x205F),
    (0x3000, 0x3000)] char

/-- Whether a character may start an identifier. -/
def isIdentifierStart (char : Char) : Bool :=
  inRanges Property.identifierStart char

/-- Whether a character may continue an identifier. -/
def isIdentifierContinue (char : Char) : Bool :=
  isIdentifierStart char || inRanges Property.identifierContinue char

/-- The Unicode property Grapheme_Extend. -/
def isGraphemeExtend (char : Char) : Bool :=
  inRanges Property.graphemeExtend char

/-- Whether a character is a halfwidth voicing mark, which extends the one before it and still takes
a place of its own. -/
def isVoicingMark (char : Char) : Bool :=
  inRanges [(0xFF9E, 0xFF9F)] char

/-- Whether a character is drawn onto the one before it. -/
def isDrawnOnto (char : Char) : Bool :=
  isGraphemeExtend char && !isVoicingMark char

/-- The Unicode property Default_Ignorable_Code_Point: characters that are not shown where they are
not supported. -/
def isIgnorable (char : Char) : Bool :=
  inRanges [(0xAD, 0xAD), (0x34F, 0x34F), (0x61C, 0x61C), (0x115F, 0x1160), (0x17B4, 0x17B5),
    (0x180B, 0x180F), (0x200B, 0x200F), (0x202A, 0x202E), (0x2060, 0x206F), (0x3164, 0x3164),
    (0xFE00, 0xFE0F), (0xFEFF, 0xFEFF), (0xFFA0, 0xFFA0), (0xFFF0, 0xFFF8), (0x1BCA0, 0x1BCA3),
    (0x1D173, 0x1D17A), (0xE0000, 0xE0FFF)] char

/-- Whether a character has a printed form. -/
def isPrintable (char : Char) : Bool :=
  !(inRanges Property.unprintable char || isIgnorable char)

/-- What starts an identifier also continues one. -/
theorem isIdentifierContinue_of_isIdentifierStart {char : Char} (h : isIdentifierStart char) :
    isIdentifierContinue char := by
  simp [isIdentifierContinue, h]

end FieldProjection.Text
