/-!
# Blank characters

The characters of Unicode's `White_Space` property, and `trim`, which removes them from both ends
of a text. Values taken from the environment are trimmed before they are read as numbers, and an
environment may hold any text, so the whole property is needed and not its ASCII part alone.
-/

set_option autoImplicit false

namespace BlogOperator.Text

/-- The blanks outside the ranges of `isBlank`: next line, no-break space, Ogham space, the two
separators, narrow no-break space, mathematical space and ideographic space. -/
def loneBlanks : List Char :=
  ['\u0020', '\u0085', '\u00a0', '\u1680', '\u2028', '\u2029', '\u202f', '\u205f', '\u3000']

/-- A blank is a horizontal control from tab to carriage return, a typographic space from U+2000
to U+200A, or one of `loneBlanks`. -/
def isBlank (character : Char) : Bool :=
  ('\u0009' ≤ character && character ≤ '\u000d') ||
    ('\u2000' ≤ character && character ≤ '\u200a') || loneBlanks.contains character

/-- The bytes that are blank in texts of which only the ASCII part counts: space, tab, line feed and
carriage return. -/
def isBlankByte (byte : UInt8) : Bool :=
  byte = 0x20 || byte = 0x09 || byte = 0x0a || byte = 0x0d

/-- A text without the blanks it ends with. -/
def trimEnd (characters : List Char) : List Char :=
  (characters.reverse.dropWhile isBlank).reverse

/-- A text without the blanks it begins and ends with. -/
def trim (characters : List Char) : List Char :=
  trimEnd (characters.dropWhile isBlank)

/-- Every white space of the core library is blank. -/
theorem isBlank_of_isWhitespace {character : Char} (h : character.isWhitespace = true) :
    isBlank character = true := by
  simp only [Char.isWhitespace, Bool.or_eq_true, decide_eq_true_eq] at h
  rcases h with ((h | h) | h) | h <;> subst h <;> decide

@[simp] theorem trim_nil : trim [] = [] := rfl

end BlogOperator.Text
