import TemplateMatch.Regex.Fault
import TemplateMatch.Regex.Layout
import TemplateMatch.Regex.Tree
import TemplateMatch.Split

/-! Reading what follows a backslash. -/

namespace TemplateMatch.Regex

/-- The characters with a meaning of their own outside or inside classes. -/
def isMeta (c : Char) : Bool :=
  c == '\\' || c == '.' || c == '+' || c == '*' || c == '?' || c == '(' || c == ')' || c == '|' ||
    c == '[' || c == ']' || c == '\x7b' || c == '\x7d' || c == '^' || c == '$' || c == '#' ||
    c == '&' || c == '-' || c == '~'

/-- After a backslash these stand for themselves. -/
def isEscapable (c : Char) : Bool :=
  isMeta c || (c.toNat < 0x80 && !c.isAlphanum && c != '<' && c != '>')

/-- One step of an expression that is neither a class in brackets nor an operator. -/
inductive Primitive
  | literal (l : Literal)
  | dot
  | assertion (a : Assertion)
  | shorthand (s : Shorthand) (negated : Bool)
  | property (q : PropertyQuery) (negated : Bool)
deriving Repr

def Primitive.toTree : Primitive → Tree
  | .literal l => .literal l
  | .dot => .dot
  | .assertion a => .assertion a
  | .shorthand s negated => .shorthand s negated
  | .property q negated => .property q negated

def hexValue (digits : List Char) : Nat :=
  digits.foldl (fun n c => n * 16 + (Unicode.hexDigit? c).getD 0) 0

def isHexDigit (c : Char) : Bool := (Unicode.hexDigit? c).isSome

/-- The character with the code point that the digits write. -/
def codePoint (digits : List Char) : Except Fault Char :=
  let n := hexValue digits
  if n.isValidChar then .ok (Char.ofNat n) else .error .codePointInvalid

/-- Exactly `count` hexadecimal digits. -/
def hexDigits (spaced : Bool) :
    Nat → List Char → Except Fault (List Char × List Char)
  | 0, text => .ok ([], text)
  | _ + 1, [] => .error .escapeUnfinished
  | count + 1, c :: rest =>
    if isHexDigit c then
      match hexDigits spaced count (layout spaced rest) with
      | .ok (digits, rest) => .ok (c :: digits, rest)
      | .error e => .error e
    else .error .digitInvalid

/-- A character by its code point: so many digits, or any number of them in braces. -/
def readHex (spaced : Bool) (count : Nat) (text : List Char) :
    Except Fault (Literal × List Char) :=
  match layout spaced text with
  | [] => .error .escapeUnfinished
  | '\x7b' :: rest =>
    match gatherAll spaced isHexDigit (layout spaced rest) with
    | (_, []) => .error .escapeUnfinished
    | ([], '\x7d' :: _) => .error .digitsMissing
    | (digits, '\x7d' :: rest) => do
      let c ← codePoint digits
      return (⟨c, false⟩, layout spaced rest)
    | _ => .error .digitInvalid
  | text => do
    let (digits, rest) ← hexDigits spaced count text
    let c ← codePoint digits
    return (⟨c, count == 2⟩, rest)

/-- A name, or a name and a value with a sign between them. -/
def PropertyQuery.ofText (text : List Char) : PropertyQuery :=
  match splitOnce "!=".toList text <|> splitOnce [':'] text <|> splitOnce ['='] text with
  | some (name, value) => .valued (String.ofList name) (String.ofList value)
  | none => .named (String.ofList text)

/-- A property: one letter, or text in braces. -/
def readProperty (spaced : Bool) (negated : Bool) (text : List Char) :
    Except Fault (Primitive × List Char) :=
  match layout spaced text with
  | [] => .error .escapeUnfinished
  | '\x7b' :: rest =>
    match gatherAll spaced (· != '\x7d') (layout spaced rest) with
    | (_, []) => .error .escapeUnfinished
    | (name, _ :: rest) => .ok (.property (.ofText name) negated, rest)
  | c :: rest =>
    if c = '\\' then .error .propertyNameInvalid
    else .ok (.property (.named (String.singleton c)) negated, layout spaced rest)

/-- A word boundary of a special kind, if braces with a letter or a hyphen follow. Other braces
are left to be a count. -/
def readBoundary (spaced : Bool) (text : List Char) : Except Fault (WordEdge × List Char) :=
  let inName (c : Char) : Bool := c.isAlpha || c == '-'
  match text with
  | '\x7b' :: rest =>
    match layout spaced rest with
    | [] => .error .boundaryUnclosed
    | c :: more =>
      if inName c then
        match gatherAll spaced inName (c :: more) with
        | (name, '\x7d' :: rest) =>
          match String.ofList name with
          | "start" => .ok (.start, rest)
          | "end" => .ok (.stop, rest)
          | "start-half" => .ok (.startHalf, rest)
          | "end-half" => .ok (.stopHalf, rest)
          | _ => .error .boundaryUnknown
        | _ => .error .boundaryUnclosed
      else .ok (.either, text)
  | _ => .ok (.either, text)

/-- The letters that mean the same whatever follows them. -/
def letterEscapes : List (Char × Primitive) := [
  ('d', .shorthand .decimal false), ('D', .shorthand .decimal true),
  ('s', .shorthand .blank false), ('S', .shorthand .blank true),
  ('w', .shorthand .word false), ('W', .shorthand .word true),
  ('a', .literal ⟨'\x07', false⟩), ('f', .literal ⟨'\x0c', false⟩),
  ('t', .literal ⟨'\t', false⟩), ('n', .literal ⟨'\n', false⟩),
  ('r', .literal ⟨'\r', false⟩), ('v', .literal ⟨'\x0b', false⟩),
  ('A', .assertion .textStart), ('z', .assertion .textStop),
  ('B', .assertion (.word .neither)),
  ('<', .assertion (.word .start)), ('>', .assertion (.word .stop))]

/-- Reads what follows a backslash. -/
def readEscape (spaced : Bool) : List Char → Except Fault (Primitive × List Char)
  | [] => .error .escapeUnfinished
  | c :: rest =>
    if c.isDigit then .error .backReference
    else if isEscapable c then .ok (.literal ⟨c, false⟩, rest)
    else if c = 'x' then (readHex spaced 2 rest).map fun r => (.literal r.1, r.2)
    else if c = 'u' then (readHex spaced 4 rest).map fun r => (.literal r.1, r.2)
    else if c = 'U' then (readHex spaced 8 rest).map fun r => (.literal r.1, r.2)
    else if c = 'p' then readProperty spaced false rest
    else if c = 'P' then readProperty spaced true rest
    else if c = 'b' then (readBoundary spaced rest).map fun r => (.assertion (.word r.1), r.2)
    else match letterEscapes.lookup c with
      | some primitive => .ok (primitive, rest)
      | none => .error .escapeUnknown

theorem readEscape_escapable {spaced : Bool} {c : Char} {rest : List Char}
    (hd : c.isDigit = false) (h : isEscapable c = true) :
    readEscape spaced (c :: rest) = .ok (.literal ⟨c, false⟩, rest) := by
  simp [readEscape, hd, h]

end TemplateMatch.Regex
