import TemplateMatch.Regex.Thread

/-!
Walks through loops. The preferred way is walked first, and no place of a loop is visited twice: a
later visit could only repeat what the first has found.
-/

namespace TemplateMatch.Regex

/-- The places of a loop, each with a number of rounds left. -/
abbrev LoopPlaces :=
  Std.TreeSet (Nat × Nat) (compareLex (compareOn Prod.fst) (compareOn Prod.snd))

/-- What a walk has visited, and the threads that left the loop, last first. -/
structure LoopWalk where
  seen : LoopPlaces := ∅
  left : List Thread := []

/-- A loop: the threads behind a round of it, and whether a further round is preferred. -/
structure Loop where
  round : Nat → Thread → List Thread
  address : Address
  greedy : Bool

namespace LoopWalk

def leave (w : LoopWalk) (t : Thread) : LoopWalk := { w with left := t :: w.left }

/-- Visits a place, unless that has been done. -/
def visit? (w : LoopWalk) (rounds : Nat) (t : Thread) : Option LoopWalk :=
  if w.seen.contains (rounds, t.pos.index) then none
  else some { w with seen := w.seen.insert (rounds, t.pos.index) }

end LoopWalk

namespace Loop

/-- Walks on by a further way, or leaves; the preferred one of these first. -/
def prefer (l : Loop) (further : LoopWalk → LoopWalk) (w : LoopWalk) (t : Thread) : LoopWalk :=
  if l.greedy then (further w).leave t else further (w.leave t)

/-- The choice between leaving and going round again. Every round that comes back to a new place
has taken a character, so the characters left are enough fuel. -/
def goOn (l : Loop) : Nat → LoopWalk → Thread → LoopWalk
  | 0, w, _ => w
  | fuel + 1, w, t =>
    match t.choose (l.address.down (.choice 0)) with
    | none => w
    | some t =>
      match w.visit? 0 t with
      | none => w
      | some w => l.prefer (fun w => (l.round 0 t).foldl (goOn l fuel) w) w t

/-- The choice at a thread's place. -/
def again (l : Loop) (w : LoopWalk) (t : Thread) : LoopWalk :=
  goOn l (t.pos.rest.length + 1) w t

/-- One round and any number of further ones. -/
def onceOrMore (l : Loop) (w : LoopWalk) (t : Thread) : LoopWalk :=
  (l.round 0 t).foldl l.again w

/-- One round and further ones, or none at all. -/
def orNone (l : Loop) (w : LoopWalk) (t : Thread) : LoopWalk :=
  match t.choose (l.address.down (.choice 1)) with
  | none => w
  | some t => l.prefer (fun w => l.onceOrMore w t) w t

/-- So many rounds at most. -/
def atMost (l : Loop) : Nat → LoopWalk → Thread → LoopWalk
  | 0, w, t => w.leave t
  | rounds + 1, w, t =>
    match t.choose (l.address.down (.choice rounds)) with
    | none => w
    | some t =>
      match w.visit? (rounds + 1) t with
      | none => w
      | some w => l.prefer (fun w => (l.round rounds t).foldl (atMost l rounds) w) w t

/-- Every thread walked in turn. -/
def walkAll (walk : LoopWalk → Thread → LoopWalk) (ts : List Thread) : List Thread :=
  Thread.distinct (ts.foldl walk {}).left.reverse

end Loop

/-- The rounds that have to be done, with the numbers below `n`, last number first. They are given
up when no thread is left. -/
def requiredRounds (round : Nat → List Thread → List Thread) : Nat → List Thread → List Thread
  | 0, ts => ts
  | n + 1, ts => if ts.isEmpty then [] else requiredRounds round n (round n ts)

end TemplateMatch.Regex
