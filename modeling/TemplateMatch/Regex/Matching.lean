import TemplateMatch.Regex.Expr
import TemplateMatch.Regex.Loop

/-!
Leftmost-first matching. `Expr.run` takes threads in the order of preference to the threads behind
the expression, again in that order and one for each place, so the first thread at the end is the
match.
-/

namespace TemplateMatch.Regex

namespace Expr

/-- The threads behind the expression, which stands at an address. -/
def run (address : Address) : Expr → List Thread → List Thread
  | empty, ts => ts
  | look l, ts => ts.filter fun t => l.holds t.pos
  | chars s, ts => ts.filterMap (Thread.step s)
  | cat a b, ts => b.run (address.down .right) (a.run (address.down .left) ts)
  | alt a b, ts =>
    Thread.distinct ((ts.filterMap (Thread.choose address)).flatMap fun t =>
      a.run (address.down .left) [t] ++ b.run (address.down .right) [t])
  | group name a, ts => (a.run address (ts.map Thread.openGroup)).map (Thread.closeGroup name)
  | repetition min (some max) greedy a, ts =>
    let round (n : Nat) (ts : List Thread) : List Thread := a.run (address.down (.round n)) ts
    let l : Loop := ⟨fun n t => round n [t], address, greedy⟩
    Loop.walkAll (l.atMost (max - min))
      (requiredRounds (fun n ts => round (max - min + n) ts) min ts)
  | repetition min none greedy a, ts =>
    let inside : Address := some (address.getD [])
    let round (n : Nat) (ts : List Thread) : List Thread := a.run (inside.down (.round n)) ts
    let l : Loop := ⟨fun n t => round n [t], address, greedy⟩
    let ts := ts.map (Thread.enterLoop address)
    if min = 0 then Loop.walkAll (if a.mayBeEmpty then l.orNone else l.again) ts
    else Loop.walkAll l.onceOrMore (requiredRounds (fun n ts => round (n + 1) ts) (min - 1) ts)

end Expr

/-- Where an expression matched, and the latest text of each of its groups that took part. -/
structure Match where
  start : Nat
  stop : Nat
  groups : List (String × String)
deriving DecidableEq, Repr

namespace Match

def ofThread (t : Thread) : Match where
  start := t.start
  stop := t.pos.index
  groups := t.groups.map fun g => (g.1, String.ofList (g.2.1.textTo g.2.2))

/-- The text of a group that took part. -/
def group? (m : Match) (name : String) : Option String := m.groups.lookup name

end Match

/-- The leftmost match, and of several there the preferred one. -/
def Expr.find (e : Expr) (text : List Char) : Option Match :=
  ((e.run none ((Position.all text).map fun p => { start := p.index, pos := p })).head?).map
    Match.ofThread

end TemplateMatch.Regex
