/-! Paths to the nodes of a tree, and their text as JSON pointers. -/

namespace TemplateMatch

/-- One step down: into a field of an object or an item of an array. -/
inductive Step
  | field (key : String)
  | item (index : Nat)
deriving DecidableEq, Repr

/-- The steps from the root. -/
abbrev Pointer := List Step

namespace Step

/-- A tilde is written `~0` and a slash `~1`. -/
def escapeKey (key : List Char) : List Char :=
  key.flatMap fun c =>
    if c = '~' then ['~', '0'] else if c = '/' then ['~', '1'] else [c]

def chars : Step → List Char
  | field key => escapeKey key.toList
  | item index => Nat.toDigits 10 index

end Step

namespace Pointer

def root : Pointer := []

def child (p : Pointer) (s : Step) : Pointer := p ++ [s]

/-- Every step with a slash in front. -/
def text (p : Pointer) : String := String.ofList (p.flatMap fun s => '/' :: s.chars)

/-- The text for a reader, where the root has a name. -/
def display (p : Pointer) : String := if p.isEmpty then "<root>" else p.text

end Pointer

end TemplateMatch
