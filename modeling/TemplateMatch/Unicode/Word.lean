import TemplateMatch.Unicode.Category
import TemplateMatch.Unicode.Property

/-! Letters, digits and word characters. ASCII is decided without the tables. -/

namespace TemplateMatch.Unicode

def alphabeticRanges : Ranges := (Property.find? "alphabetic").getD []

def digitRanges : Ranges := (Category.find? "nd").getD []

def numberRanges : Ranges := (Category.find? "n").getD []

/-- Letters, marks, decimal digits, connectors and joiners. -/
def wordRanges : Ranges :=
  alphabeticRanges ++ (Category.find? "m").getD [] ++ digitRanges ++
    (Category.find? "pc").getD [] ++ (Property.find? "joincontrol").getD []

def isAlphabetic (c : Char) : Bool :=
  if c.toNat < 0x80 then c.isAlpha else alphabeticRanges.contains c.toNat

def isAlphanumeric (c : Char) : Bool :=
  if c.toNat < 0x80 then c.isAlphanum
  else alphabeticRanges.contains c.toNat || numberRanges.contains c.toNat

/-- A decimal digit of any script. -/
def isDecimal (c : Char) : Bool :=
  if c.toNat < 0x80 then c.isDigit else digitRanges.contains c.toNat

def isWord (c : Char) : Bool :=
  if c.toNat < 0x80 then c.isAlphanum || c == '_' else wordRanges.contains c.toNat

end TemplateMatch.Unicode
