import StaticSite.Text.CodePoints
import StaticSite.Text.Split

/-!
# Blank characters

The characters with the property `White_Space`, trimming them from both ends of a
text, and the words that they separate.
-/

namespace StaticSite.Text

def whiteSpace : CodePoints :=
  [(0x9, 0xd), (0x20, 0x20), (0x85, 0x85), (0xa0, 0xa0), (0x1680, 0x1680),
   (0x2000, 0x200a), (0x2028, 0x2029), (0x202f, 0x202f), (0x205f, 0x205f), (0x3000, 0x3000)]

def isBlank (c : Char) : Bool :=
  whiteSpace.contains c

def trim (s : String) : String :=
  String.ofList (((s.toList.dropWhile isBlank).reverse.dropWhile isBlank).reverse)

/-- A text is blank when it holds nothing but blank characters. -/
def isBlankText (s : String) : Bool :=
  s.toList.all isBlank

/-- The maximal runs of characters that are not blank. -/
def words (s : String) : List String :=
  ((splitWhere isBlank s.toList).filter (!·.isEmpty)).map String.ofList

end StaticSite.Text
