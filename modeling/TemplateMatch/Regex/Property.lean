import TemplateMatch.Regex.CharSet
import TemplateMatch.Unicode.Age
import TemplateMatch.Unicode.Break
import TemplateMatch.Unicode.Script

/-! Named classes: Unicode properties looked up by loose names, and the classes of ASCII. -/

namespace TemplateMatch.Regex

/-- What is written after a backslash and the letter p. -/
inductive PropertyQuery
  | named (name : String)
  | valued (name value : String)
deriving DecidableEq, Repr

namespace PropertyQuery

/-- The loose spelling of a name: no blanks, hyphens or underscores, lower case, ASCII only, and
without "is" in front. The name "isc" stays whole. -/
def loose (name : String) : String :=
  let keep (cs : List Char) : List Char :=
    (cs.filter fun c => c.toNat < 0x80 && c != ' ' && c != '_' && c != '-').map Char.toLower
  match name.toList with
  | i :: s :: rest =>
    if i.toLower = 'i' ∧ s.toLower = 's' then
      if keep rest = ['c'] then "isc" else String.ofList (keep rest)
    else String.ofList (keep (i :: s :: rest))
  | cs => String.ofList (keep cs)

/-- A general category, or one of the three sets that stand beside them. -/
def category? (label : String) : Option CharSet :=
  if label = "any" then some .any
  else if label = "ascii" then some (.ranges [(0, 0x7F)])
  else if label = "assigned" then
    (Unicode.Category.find? "cn").map fun rs => .negated (.ranges rs)
  else (Unicode.Category.find? label).map .ranges

/-- A property, else a category, else a script. Three short names of categories are also short
names of properties that are no sets, and mean the categories. -/
def named? (label : String) : Option CharSet :=
  let property :=
    if label = "cf" ∨ label = "sc" ∨ label = "lc" then none
    else (Unicode.Property.find? label).map .ranges
  property <|> category? label <|> (Unicode.Script.find? label).map .ranges

/-- The characters for which a property has a value. -/
def valued? (property label : String) : Option CharSet :=
  match property with
  | "gc" | "generalcategory" => category? label
  | "sc" | "script" => (Unicode.Script.find? label).map .ranges
  | "scx" | "scriptextensions" => (Unicode.Script.extended? label).map .ranges
  | "age" => (Unicode.Age.find? label).map .ranges
  | "gcb" | "graphemeclusterbreak" =>
    (Unicode.Break.find? Unicode.Break.graphemes label).map .ranges
  | "wb" | "wordbreak" => (Unicode.Break.find? Unicode.Break.words label).map .ranges
  | "sb" | "sentencebreak" => (Unicode.Break.find? Unicode.Break.sentences label).map .ranges
  | _ => none

def resolve? : PropertyQuery → Option CharSet
  | .named name => named? (loose name)
  | .valued name value => valued? (loose name) (loose value)

end PropertyQuery

/-- The ranges of ASCII that a bracketed name stands for. -/
def asciiClass? (name : String) : Option Unicode.Ranges :=
  match name with
  | "alnum" => some [(0x30, 0x39), (0x41, 0x5A), (0x61, 0x7A)]
  | "alpha" => some [(0x41, 0x5A), (0x61, 0x7A)]
  | "ascii" => some [(0x0, 0x7F)]
  | "blank" => some [(0x9, 0x9), (0x20, 0x20)]
  | "cntrl" => some [(0x0, 0x1F), (0x7F, 0x7F)]
  | "digit" => some [(0x30, 0x39)]
  | "graph" => some [(0x21, 0x7E)]
  | "lower" => some [(0x61, 0x7A)]
  | "print" => some [(0x20, 0x7E)]
  | "punct" => some [(0x21, 0x2F), (0x3A, 0x40), (0x5B, 0x60), (0x7B, 0x7E)]
  | "space" => some [(0x9, 0xD), (0x20, 0x20)]
  | "upper" => some [(0x41, 0x5A)]
  | "word" => some [(0x30, 0x39), (0x41, 0x5A), (0x5F, 0x5F), (0x61, 0x7A)]
  | "xdigit" => some [(0x30, 0x39), (0x41, 0x46), (0x61, 0x66)]
  | _ => none

end TemplateMatch.Regex
