import TemplateMatch.Unicode.Folding
import TemplateMatch.Unicode.Property

/-! Lower case of whole texts, where a character may become two and a sigma depends on its place. -/

namespace TemplateMatch.Unicode

def loweredRanges : Ranges := (Property.find? "changeswhenlowercased").getD []

def casedRanges : Ranges := (Property.find? "cased").getD []

def caseIgnorableRanges : Ranges := (Property.find? "caseignorable").getD []

/-- Lower case of a character wherever it stands. It represents the case class of the character,
but for Cherokee, whose classes have capitals for representatives. -/
def lowerChar (c : Char) : List Char :=
  let n := c.toNat
  if n < 0x80 then [c.toLower]
  else if n = 0x130 then ['i', '\u0307']
  else if 0x13A0 ≤ n ∧ n ≤ 0x13EF then [Char.ofNat (n - 0x13A0 + 0xAB70)]
  else if 0x13F0 ≤ n ∧ n ≤ 0x13F5 then [Char.ofNat (n + 8)]
  else if loweredRanges.contains n then [fold c]
  else [c]

/-- Whether a letter with case comes next, marks and the like passed over. -/
def startsCased (text : List Char) : Bool :=
  match text.dropWhile fun c => caseIgnorableRanges.contains c.toNat with
  | [] => false
  | c :: _ => casedRanges.contains c.toNat

/-- Lower case of characters behind others, which are given last first. A sigma at the end of a word
has a form of its own. -/
def lowerFrom (before : List Char) : List Char → List Char
  | [] => []
  | c :: rest =>
    let small :=
      if c = '\u03A3' then [if startsCased before && !startsCased rest then '\u03C2' else '\u03C3']
      else lowerChar c
    small ++ lowerFrom (c :: before) rest

def lower (text : String) : String := String.ofList (lowerFrom [] text.toList)

end TemplateMatch.Unicode
