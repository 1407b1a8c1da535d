import BoardQuery.Text.Ranges

/-!
# Blank characters

The white space of Unicode, with the four separators U+001C to U+001F. Values are trimmed of it on
both sides before they are read. Where a text is read as a number as it stands, the separators are
no blanks.
-/

namespace BoardQuery.Text

/-- The blank characters. -/
def blankRanges : Ranges := [
  (9, 13), (28, 32), (133, 133), (160, 160), (5760, 5760), (8192, 8202), (8232, 8233), (8239, 8239),
  (8287, 8287), (12288, 12288)]

def isBlank (c : Char) : Bool :=
  blankRanges.contains c.toNat

/-- The blanks that may stand around the digits of a number: all but the four separators. -/
def isNumberBlank (c : Char) : Bool :=
  isBlank c && !(28 ≤ c.toNat && c.toNat ≤ 31)

/-- Characters without those at their two ends that a test drops. -/
def trimBy (dropped : Char → Bool) (cs : List Char) : List Char :=
  ((cs.dropWhile dropped).reverse.dropWhile dropped).reverse

/-- Characters without the blanks at their two ends. -/
def trimChars (cs : List Char) : List Char :=
  trimBy isBlank cs

/-- A text without the blanks at its two ends. -/
def trim (s : String) : String :=
  String.ofList (trimChars s.toList)

/-- A text that holds no character but blanks. -/
def isBlankText (s : String) : Bool :=
  s.toList.all isBlank

end BoardQuery.Text
