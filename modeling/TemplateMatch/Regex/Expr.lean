import TemplateMatch.Regex.CharSet
import TemplateMatch.Regex.Position

/-! Expressions ready for matching: flags are resolved and only named groups are left. -/

namespace TemplateMatch.Regex

inductive Expr
  | empty
  | look (l : Look)
  | chars (s : CharSet)
  | cat (a b : Expr)
  | alt (a b : Expr)
  | group (name : String) (a : Expr)
  | repetition (min : Nat) (max : Option Nat) (greedy : Bool) (a : Expr)

namespace Expr

/-- No text but the empty one can match. -/
def isNullOnly : Expr → Bool
  | empty | look _ => true
  | chars _ => false
  | cat a b | alt a b => a.isNullOnly && b.isNullOnly
  | group _ a | repetition _ _ _ a => a.isNullOnly

/-- The empty text can match where conditions allow. -/
def mayBeEmpty : Expr → Bool
  | empty | look _ => true
  | chars _ => false
  | cat a b => a.mayBeEmpty && b.mayBeEmpty
  | alt a b => a.mayBeEmpty || b.mayBeEmpty
  | group _ a => a.mayBeEmpty
  | repetition min _ _ a => min == 0 || a.mayBeEmpty

/-- A repetition. One of nothing but the empty text is tried once at most, and what is repeated
no times is left out with its groups. -/
def repeated (min : Nat) (max : Option Nat) (greedy : Bool) (a : Expr) : Expr :=
  let (min, max) :=
    if a.isNullOnly then (Nat.min min 1, some ((max.map (Nat.min · 1)).getD 1)) else (min, max)
  if max = some 0 then empty
  else if min = 1 ∧ max = some 1 then a
  else repetition min max greedy a

def ofList : List Expr → Expr
  | [] => empty
  | [a] => a
  | a :: as => cat a (ofList as)

/-- The first branch is preferred. -/
def ofBranches : List Expr → Expr
  | [] => empty
  | [a] => a
  | a :: as => alt a (ofBranches as)

/-- The names of the groups, in order. -/
def groups : Expr → List String
  | empty | look _ | chars _ => []
  | cat a b | alt a b => a.groups ++ b.groups
  | group name a => name :: a.groups
  | repetition _ _ _ a => a.groups

/-- An estimate of the bytes that a program for the expression takes, in which what is repeated
stands as often as it may be tried. -/
def size : Expr → Nat
  | empty | look _ => 32
  | chars s => 32 + 24 * s.rangeCount
  | cat a b => a.size + b.size
  | alt a b => 40 + a.size + b.size
  | group _ a => 64 + a.size
  | repetition min (some max) _ a => 32 + min * a.size + (max - min) * (40 + a.size)
  | repetition min none _ a => 72 + Nat.max min 1 * a.size

end Expr

end TemplateMatch.Regex
