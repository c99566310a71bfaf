import TemplateMatch.Unicode.Blank
import TemplateMatch.Unicode.Folding
import TemplateMatch.Unicode.Ranges
import TemplateMatch.Unicode.Word

/-! Sets of characters as expressions; `mem` decides whether a character belongs to one. -/

namespace TemplateMatch.Regex

inductive CharSet
  | ranges (rs : Unicode.Ranges)
  | decimal
  | blank
  | word
  /-- The characters whose case class `t` represents. -/
  | represented (t : Char)
  /-- With every character all those alike to it; without Unicode, with every letter from A to Z the
  same letter in the other case. -/
  | folded (unicode : Bool) (s : CharSet)
  | negated (s : CharSet)
  | union (s t : CharSet)
  | inter (s t : CharSet)
  | diff (s t : CharSet)
  | symmDiff (s t : CharSet)

namespace CharSet

/-- The same letter from A to Z in the other case. -/
def otherCase (c : Char) : Char := if c.isUpper then c.toLower else c.toUpper

def mem : CharSet → Char → Bool
  | ranges rs, c => rs.contains c.toNat
  | decimal, c => Unicode.isDecimal c
  | blank, c => Unicode.isBlank c
  | word, c => Unicode.isWord c
  | represented t, c => Unicode.fold c == t
  | folded true s, c => (Unicode.orbit c).any fun d => mem s d
  | folded false s, c => mem s c || (c.isAlpha && mem s (otherCase c))
  | negated s, c => !mem s c
  | union s t, c => mem s c || mem t c
  | inter s t, c => mem s c && mem t c
  | diff s t, c => mem s c && !mem t c
  | symmDiff s t, c => mem s c != mem t c

def none : CharSet := ranges []

def any : CharSet := ranges [(0, 0x10FFFF)]

def single (c : Char) : CharSet := ranges [(c.toNat, c.toNat)]

def except (c : Char) : CharSet := negated (single c)

@[simp] theorem mem_single (c d : Char) : (single c).mem d = (d == c) := by
  simp only [single, mem, Unicode.Ranges.contains, List.any_cons, List.any_nil, Bool.or_false]
  by_cases h : d = c
  · subst h; simp
  · have : d.toNat ≠ c.toNat := fun e => h (Char.toNat_inj.mp e)
    simp only [beq_eq_false_iff_ne.mpr h, Bool.and_eq_false_iff, decide_eq_false_iff_not]
    omega

@[simp] theorem mem_any (c : Char) : any.mem c = true := by
  have h : c.toNat < 0xD800 ∨ 0xDFFF < c.toNat ∧ c.toNat < 0x110000 := c.valid
  simp only [any, mem, Unicode.Ranges.contains, List.any_cons, List.any_nil, Bool.or_false,
    Bool.and_eq_true, decide_eq_true_eq]
  omega

@[simp] theorem mem_represented (t c : Char) :
    (represented t).mem c = (Unicode.fold c == t) := rfl

/-- Closed under case by the way it is built. -/
def isFolded (unicode : Bool) : CharSet → Bool
  | ranges _ | decimal | blank | word => false
  | represented _ => unicode
  | folded u _ => u == unicode
  | negated s => isFolded unicode s
  | union s t | inter s t | diff s t | symmDiff s t => isFolded unicode s && isFolded unicode t

/-- The set closed under case. A union is closed side by side. -/
def fold (unicode : Bool) : CharSet → CharSet
  | union s t => union (fold unicode s) (fold unicode t)
  | s => if s.isFolded unicode then s else folded unicode s

/-- An upper bound on the ranges that the set takes once it is written out. -/
def rangeCount : CharSet → Nat
  | ranges rs => rs.length
  | decimal => 80
  | blank => 10
  | word => 800
  | represented _ => 3
  | folded _ s => 2 * rangeCount s
  | negated s => rangeCount s + 1
  | union s t | inter s t | diff s t | symmDiff s t => rangeCount s + rangeCount t

end CharSet

end TemplateMatch.Regex
