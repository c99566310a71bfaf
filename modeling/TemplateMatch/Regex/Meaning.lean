import TemplateMatch.Regex.Expr
import TemplateMatch.Regex.Fault
import TemplateMatch.Regex.Tree

/-! What a written expression means under its flags. -/

namespace TemplateMatch.Regex

namespace Literal

/-- Two hexadecimal digits beyond ASCII name a byte, which is no character without Unicode. -/
def isBareByte (fl : Flags) (l : Literal) : Bool :=
  !fl.unicode && l.fromByte && 0x80 ≤ l.char.toNat

/-- The characters that a literal matches. -/
def meaning (fl : Flags) (l : Literal) : Except Fault CharSet :=
  if l.isBareByte fl then .error .unicodeDisabled
  else if !fl.ignoreCase then .ok (.single l.char)
  else if fl.unicode then .ok (.represented (Unicode.fold l.char))
  else .ok (.folded false (.single l.char))

end Literal

/-- Without Unicode a class holds ASCII only, so it cannot be negated. -/
def negateClass (fl : Flags) (negated : Bool) (s : CharSet) : Except Fault CharSet :=
  if !negated then .ok s
  else if fl.unicode then .ok (.negated s)
  else .error .unicodeDisabled

/-- With all characters that differ in case only, if case is ignored. -/
def foldClass (fl : Flags) (s : CharSet) : CharSet :=
  if fl.ignoreCase then s.fold fl.unicode else s

namespace Shorthand

def meaning (fl : Flags) (negated : Bool) (s : Shorthand) : Except Fault CharSet :=
  negateClass fl negated <|
    if fl.unicode then
      match s with
      | decimal => .decimal
      | blank => .blank
      | word => .word
    else
      match s with
      | decimal => .ranges [(0x30, 0x39)]
      | blank => .ranges [(0x9, 0xD), (0x20, 0x20)]
      | word => .ranges [(0x30, 0x39), (0x41, 0x5A), (0x5F, 0x5F), (0x61, 0x7A)]

end Shorthand

namespace PropertyQuery

def meaning (fl : Flags) (negated : Bool) (q : PropertyQuery) : Except Fault CharSet :=
  if !fl.unicode then .error .unicodeDisabled
  else match q.resolve? with
    | none => .error .propertyUnknown
    | some s => negateClass fl negated (foldClass fl s)

end PropertyQuery

namespace ClassTree

/-- A character as a member of a class. -/
def code (fl : Flags) (l : Literal) : Except Fault Nat :=
  if !fl.unicode && 0x80 ≤ l.char.toNat then .error .unicodeDisabled else .ok l.char.toNat

mutual

/-- The set that a class denotes. Brackets and the sides of operators are closed under case where
case is ignored. -/
def meaning (fl : Flags) : ClassTree → Except Fault CharSet
  | literal l => (code fl l).map fun n => .ranges [(n, n)]
  | range low high => do
    let a ← code fl low
    let b ← code fl high
    return .ranges [(a, b)]
  | ascii rs negated => negateClass fl negated (foldClass fl (.ranges rs))
  | shorthand s negated => s.meaning fl negated
  | property q negated => q.meaning fl negated
  | bracket negated body => do negateClass fl negated (foldClass fl (← meaning fl body))
  | union items => unionMeaning fl items
  | op o left right => do
    let a := foldClass fl (← meaning fl left)
    let b := foldClass fl (← meaning fl right)
    match o with
    | .inter => return .inter a b
    | .diff => return .diff a b
    | .symmDiff => return .symmDiff a b

def unionMeaning (fl : Flags) : List ClassTree → Except Fault CharSet
  | [] => .ok .none
  | t :: ts => do return .union (← meaning fl t) (← unionMeaning fl ts)

end

end ClassTree

namespace Assertion

def meaning (fl : Flags) : Assertion → Look
  | lineStart => if !fl.multiLine then .textStart else if fl.crlf then .crlfStart else .lineStart
  | lineStop => if !fl.multiLine then .textStop else if fl.crlf then .crlfStop else .lineStop
  | textStart => .textStart
  | textStop => .textStop
  | word .either => .wordEdge fl.unicode
  | word .neither => .noWordEdge fl.unicode
  | word .start => .wordStart fl.unicode
  | word .stop => .wordStop fl.unicode
  | word .startHalf => .wordStartHalf fl.unicode
  | word .stopHalf => .wordStopHalf fl.unicode

end Assertion

/-- Any character, or any that ends no line. -/
def dotMeaning (fl : Flags) : Except Fault CharSet :=
  if !fl.unicode then .error .unicodeDisabled
  else if fl.dotAll then .ok .any
  else if fl.crlf then .ok (.negated (.ranges [(0xA, 0xA), (0xD, 0xD)]))
  else .ok (.except '\n')

namespace Tree

mutual

/-- The expression that a tree means, and the flags that hold after it. -/
def meaning (fl : Flags) : Tree → Except Fault (Expr × Flags)
  | empty => .ok (.empty, fl)
  | flags items => .ok (.empty, fl.apply items)
  | literal l => (l.meaning fl).map fun s => (.chars s, fl)
  | dot => (dotMeaning fl).map fun s => (.chars s, fl)
  | assertion a => .ok (.look (a.meaning fl), fl)
  | shorthand s negated => (s.meaning fl negated).map fun s => (.chars s, fl)
  | property q negated => (q.meaning fl negated).map fun s => (.chars s, fl)
  | bracket negated body =>
    ((ClassTree.bracket negated body).meaning fl).map fun s => (.chars s, fl)
  | repetition min max greedy body => do
    let (a, after) ← meaning fl body
    return (.repeated min max (greedy != fl.swapGreed) a, after)
  | group (.flags items) body => do
    let (a, _) ← meaning (fl.apply items) body
    return (a, fl)
  | group (.capture name) body => do
    let (a, _) ← meaning fl body
    return ((match name with | some n => .group n a | none => a), fl)
  | alternation items => do
    let (as, after) ← meanings fl items
    return (.ofBranches as, after)
  | concat items => do
    let (as, after) ← meanings fl items
    return (.ofList as, after)

def meanings (fl : Flags) : List Tree → Except Fault (List Expr × Flags)
  | [] => .ok ([], fl)
  | t :: ts => do
    let (a, fl) ← meaning fl t
    let (as, fl) ← meanings fl ts
    return (a :: as, fl)

end

end Tree

end TemplateMatch.Regex
