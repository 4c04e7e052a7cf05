import Telemetry.Text.CodeRange

/-!
White space and trimming.

White space is the Unicode property White_Space; zero-width characters and the byte order
mark do not have it.
-/
namespace Telemetry.Text

/-- The members of White_Space. -/
def blankRanges : CodeRanges :=
  [(9, 13), (32, 32), (133, 133), (160, 160), (5760, 5760), (8192, 8202), (8232, 8233),
   (8239, 8239), (8287, 8287), (12288, 12288)]

def isBlank (c : Char) : Bool :=
  blankRanges.has c.toNat

def trimEnd (s : List Char) : List Char :=
  (s.reverse.dropWhile isBlank).reverse

def trim (s : List Char) : List Char :=
  trimEnd (s.dropWhile isBlank)

def trimmed (s : String) : String :=
  String.ofList (trim s.toList)

/-- Whether the string holds nothing but white space. -/
def isBlankText (s : String) : Bool :=
  s.toList.all isBlank

end Telemetry.Text
