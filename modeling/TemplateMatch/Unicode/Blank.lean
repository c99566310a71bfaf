/-! White space: the Unicode property, and trimming by it. -/

namespace TemplateMatch.Unicode

/-- The property White_Space. -/
def isBlank (c : Char) : Bool :=
  let n := c.toNat
  (0x9 ≤ n && n ≤ 0xD) || n == 0x20 || n == 0x85 || n == 0xA0 || n == 0x1680 ||
    (0x2000 ≤ n && n ≤ 0x200A) || n == 0x2028 || n == 0x2029 || n == 0x202F || n == 0x205F ||
    n == 0x3000

/-- Without the white space at both ends. -/
def trim (text : String) : String :=
  String.ofList ((text.toList.dropWhile isBlank).reverse.dropWhile isBlank).reverse

/-- The letters A to Z in lower case and all else as it is. -/
def asciiLower (text : String) : String := String.ofList (text.toList.map Char.toLower)

end TemplateMatch.Unicode
