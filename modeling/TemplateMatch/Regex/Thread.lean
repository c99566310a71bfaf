import Std.Data.TreeSet
import TemplateMatch.Regex.CharSet
import TemplateMatch.Regex.Position

/-!
Threads: ways through a part of an expression. Inside of a loop a thread keeps a trail of the
choices it has made at its place, for coming back to one of them there leads nowhere new.
-/

namespace TemplateMatch.Regex

/-- A turn on the way down an expression. -/
inductive Turn
  | left
  | right
  /-- Into what is repeated, in the round with this number. -/
  | round (number : Nat)
  /-- To a choice that a repetition offers. -/
  | choice (number : Nat)
deriving DecidableEq, Repr

/-- A part of a loop: the turns down to it, last first. Outside of loops there are no addresses,
for what stands there is met once only. -/
abbrev Address := Option (List Turn)

/-- The part that one more turn leads to. -/
def Address.down (a : Address) (turn : Turn) : Address := a.map (turn :: ·)

structure Thread where
  /-- Where the match began. -/
  start : Nat
  pos : Position
  /-- Where the groups around `pos` began, innermost first. -/
  opened : List Position := []
  /-- The groups that are complete with their texts, latest first. -/
  groups : List (String × Position × Position) := []
  /-- The choices made since the last character, latest first. -/
  trail : List (List Turn) := []

namespace Thread

/-- The thread behind the next character, if it is in the set. -/
def step (s : CharSet) (t : Thread) : Option Thread :=
  match t.pos.rest with
  | [] => none
  | c :: rest =>
    if s.mem c then some { t with pos := ⟨t.pos.index + 1, some c, rest⟩, trail := [] } else none

def openGroup (t : Thread) : Thread := { t with opened := t.pos :: t.opened }

def closeGroup (name : String) (t : Thread) : Thread :=
  match t.opened with
  | [] => t
  | p :: opened => { t with opened := opened, groups := (name, p, t.pos) :: t.groups }

/-- The thread at a choice, unless it has made that choice at this place before. -/
def choose (a : Address) (t : Thread) : Option Thread :=
  match a with
  | none => some t
  | some turns =>
    if t.trail.contains turns then none else some { t with trail := turns :: t.trail }

/-- A loop that stands in no other loop begins a new trail. -/
def enterLoop (a : Address) (t : Thread) : Thread :=
  match a with
  | none => { t with trail := [] }
  | some _ => t

/-- The first thread at each place that is not in `seen`. -/
def distinctFrom (seen : Std.TreeSet Nat) : List Thread → List Thread
  | [] => []
  | t :: ts =>
    if seen.contains t.pos.index then distinctFrom seen ts
    else t :: distinctFrom (seen.insert t.pos.index) ts

/-- The first thread at each place. -/
def distinct (ts : List Thread) : List Thread := distinctFrom ∅ ts

end Thread

end TemplateMatch.Regex
