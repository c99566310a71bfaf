import TemplateMatch.Unicode.Word

/-! Places in a text, and the conditions that hold at some of them. -/

namespace TemplateMatch.Regex

/-- A place between two characters of a text. -/
structure Position where
  /-- How many characters stand before it. -/
  index : Nat
  /-- The last of them. -/
  before : Option Char
  /-- The characters after it. -/
  rest : List Char
deriving DecidableEq, Repr

namespace Position

def start (text : List Char) : Position := ⟨0, none, text⟩

def after (p : Position) : Option Char := p.rest.head?

/-- All places of the text from `p` on. -/
def onward (index : Nat) (before : Option Char) : List Char → List Position
  | [] => [⟨index, before, []⟩]
  | c :: rest => ⟨index, before, c :: rest⟩ :: onward (index + 1) (some c) rest

def all (text : List Char) : List Position := onward 0 none text

/-- The characters between `p` and a later place. -/
def textTo (p q : Position) : List Char := p.rest.take (q.index - p.index)

end Position

/-- A condition on a place. -/
inductive Look
  | textStart
  | textStop
  | lineStart
  | lineStop
  /-- At lines that end in a carriage return, a line feed or both. -/
  | crlfStart
  | crlfStop
  | wordEdge (unicode : Bool)
  | noWordEdge (unicode : Bool)
  | wordStart (unicode : Bool)
  | wordStop (unicode : Bool)
  | wordStartHalf (unicode : Bool)
  | wordStopHalf (unicode : Bool)
deriving DecidableEq, Repr

namespace Look

/-- Whether there is a word character on this side. -/
def isWordAt (unicode : Bool) : Option Char → Bool
  | none => false
  | some c => if unicode then Unicode.isWord c else c.isAlphanum || c == '_'

def holds (p : Position) : Look → Bool
  | textStart => p.before.isNone
  | textStop => p.after.isNone
  | lineStart => p.before.isNone || p.before == some '\n'
  | lineStop => p.after.isNone || p.after == some '\n'
  | crlfStart =>
    p.before.isNone || p.before == some '\n' ||
      (p.before == some '\r' && p.after != some '\n')
  | crlfStop =>
    p.after.isNone || p.after == some '\r' ||
      (p.after == some '\n' && p.before != some '\r')
  | wordEdge u => isWordAt u p.before != isWordAt u p.after
  | noWordEdge u => isWordAt u p.before == isWordAt u p.after
  | wordStart u => !isWordAt u p.before && isWordAt u p.after
  | wordStop u => isWordAt u p.before && !isWordAt u p.after
  | wordStartHalf u => !isWordAt u p.before
  | wordStopHalf u => !isWordAt u p.after

end Look

end TemplateMatch.Regex
