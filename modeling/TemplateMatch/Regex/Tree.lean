import TemplateMatch.Regex.Flags
import TemplateMatch.Regex.Property

/-! Expressions as they are written, before flags give them a meaning. -/

namespace TemplateMatch.Regex

/-- A character, and whether two hexadecimal digits wrote it. -/
structure Literal where
  char : Char
  fromByte : Bool := false
deriving DecidableEq, Repr

/-- The classes that a single letter names. -/
inductive Shorthand
  | decimal
  | blank
  | word
deriving DecidableEq, Repr

inductive WordEdge
  | either
  | neither
  | start
  | stop
  | startHalf
  | stopHalf
deriving DecidableEq, Repr

inductive Assertion
  | lineStart
  | lineStop
  | textStart
  | textStop
  | word (edge : WordEdge)
deriving DecidableEq, Repr

inductive ClassOp
  | inter
  | diff
  | symmDiff
deriving DecidableEq, Repr

/-- What stands between brackets. A union has no items, or two and more. -/
inductive ClassTree
  | literal (l : Literal)
  | range (low high : Literal)
  | ascii (rs : Unicode.Ranges) (negated : Bool)
  | shorthand (s : Shorthand) (negated : Bool)
  | property (q : PropertyQuery) (negated : Bool)
  | bracket (negated : Bool) (body : ClassTree)
  | union (items : List ClassTree)
  | op (o : ClassOp) (left right : ClassTree)
deriving Repr

inductive GroupKind
  | capture (name : Option String)
  | flags (items : List FlagItem)
deriving DecidableEq, Repr

/-- An expression. Alternations and concatenations have two items or more. -/
inductive Tree
  | empty
  | flags (items : List FlagItem)
  | literal (l : Literal)
  | dot
  | assertion (a : Assertion)
  | shorthand (s : Shorthand) (negated : Bool)
  | property (q : PropertyQuery) (negated : Bool)
  | bracket (negated : Bool) (body : ClassTree)
  | repetition (min : Nat) (max : Option Nat) (greedy : Bool) (body : Tree)
  | group (kind : GroupKind) (body : Tree)
  | alternation (items : List Tree)
  | concat (items : List Tree)
deriving Repr

namespace ClassTree

mutual

/-- How deep brackets, unions and operators are nested. -/
def height : ClassTree → Nat
  | bracket _ body => body.height + 1
  | union items => if items.isEmpty then 0 else heights items + 1
  | op _ left right => max left.height right.height + 1
  | _ => 0

def heights : List ClassTree → Nat
  | [] => 0
  | t :: ts => max t.height (heights ts)

end

/-- Items in the order they stand; a single one is no union. -/
def ofItems : List ClassTree → ClassTree
  | [t] => t
  | ts => union ts

end ClassTree

namespace Tree

mutual

/-- How deep everything that holds other expressions is nested. -/
def height : Tree → Nat
  | bracket _ body => body.height + 1
  | repetition _ _ _ body => body.height + 1
  | group _ body => body.height + 1
  | alternation items => heights items + 1
  | concat items => heights items + 1
  | _ => 0

def heights : List Tree → Nat
  | [] => 0
  | t :: ts => max t.height (heights ts)

end

/-- One after the other. -/
def ofSequence : List Tree → Tree
  | [] => empty
  | [t] => t
  | ts => concat ts

/-- One or the other. -/
def ofBranches : List Tree → Tree
  | [] => empty
  | [t] => t
  | ts => alternation ts

/-- Nothing can be repeated where these stand. -/
def isOperand : Tree → Bool
  | empty | flags _ => false
  | _ => true

end Tree

end TemplateMatch.Regex
