import TemplateMatch.Bindings
import TemplateMatch.Json.Place
import TemplateMatch.Json.Value
import TemplateMatch.Unicode.Ranges

/-! Reading JSON. Every fault is reported with its place. -/

namespace TemplateMatch.Json

inductive Fault
  | endInList
  | endInObject
  | endInString
  | endInValue
  | expectedColon
  | expectedListComma
  | expectedObjectComma
  | expectedWord
  | expectedValue
  | invalidEscape
  | invalidNumber
  | numberOutOfRange
  | controlCharacter
  | keyNotString
  | loneSurrogate
  | trailingComma
  | trailingText
  | unfinishedSurrogate
  | nestedTooDeep
deriving DecidableEq, Repr

def Fault.message : Fault → String
  | .endInList => "EOF while parsing a list"
  | .endInObject => "EOF while parsing an object"
  | .endInString => "EOF while parsing a string"
  | .endInValue => "EOF while parsing a value"
  | .expectedColon => "expected `:`"
  | .expectedListComma => "expected `,` or `]`"
  | .expectedObjectComma => "expected `,` or `\x7d`"
  | .expectedWord => "expected ident"
  | .expectedValue => "expected value"
  | .invalidEscape => "invalid escape"
  | .invalidNumber => "invalid number"
  | .numberOutOfRange => "number out of range"
  | .controlCharacter => "control character (\\u0000-\\u001F) found while parsing a string"
  | .keyNotString => "key must be a string"
  | .loneSurrogate => "lone leading surrogate in hex escape"
  | .trailingComma => "trailing comma"
  | .trailingText => "trailing characters"
  | .unfinishedSurrogate => "unexpected end of hex escape"
  | .nestedTooDeep => "recursion limit exceeded"

/-- A fault and where it was found. -/
structure ReadError where
  fault : Fault
  place : Place
deriving DecidableEq, Repr

def ReadError.message (e : ReadError) : String :=
  e.fault.message ++ " at line " ++ toString e.place.line ++ " column " ++
    toString e.place.column

/-- What was read, the place behind it and the text from there on. -/
abbrev ReadResult (α : Type) := Except ReadError (α × Place × List Char)

def isSpace (c : Char) : Bool := c == ' ' || c == '\n' || c == '\t' || c == '\r'

/-- The place and the text behind white space. -/
def skipSpace (p : Place) : List Char → Place × List Char
  | [] => (p, [])
  | c :: rest => if isSpace c then skipSpace (p.after c) rest else (p, c :: rest)

/-- Four hexadecimal digits. Other text is passed over by bytes. -/
def readHexFour (p : Place) (text : List Char) : ReadResult Nat :=
  if (String.ofList (text.take 4)).utf8ByteSize < 4 then .error ⟨.endInString, p.afterAll text⟩
  else
    match text with
    | a :: b :: c :: d :: rest =>
      match Unicode.hexDigit? a, Unicode.hexDigit? b, Unicode.hexDigit? c, Unicode.hexDigit? d with
      | some a, some b, some c, some d =>
        .ok (((a * 16 + b) * 16 + c) * 16 + d, ⟨p.line, p.column + 4⟩, rest)
      | _, _, _, _ => .error ⟨.invalidEscape, p.afterBytes 4 text⟩
    | _ => .error ⟨.invalidEscape, p.afterBytes 4 text⟩

def isLeading (n : Nat) : Bool := 0xD800 ≤ n && n ≤ 0xDBFF

def isTrailing (n : Nat) : Bool := 0xDC00 ≤ n && n ≤ 0xDFFF

/-- The second half of a pair of surrogates, with its backslash. -/
def readTrailing (leading : Nat) (p : Place) (text : List Char) : ReadResult Char :=
  match text with
  | [] => .error ⟨.endInString, p⟩
  | '\\' :: [] => .error ⟨.endInString, p.after '\\'⟩
  | '\\' :: 'u' :: rest =>
    match readHexFour ⟨p.line, p.column + 2⟩ rest with
    | .error e => .error e
    | .ok (n, p, rest) =>
      if isTrailing n then
        .ok (Char.ofNat ((leading - 0xD800) * 0x400 + (n - 0xDC00) + 0x10000), p, rest)
      else .error ⟨.loneSurrogate, p⟩
  | '\\' :: c :: _ => .error ⟨.unfinishedSurrogate, (p.after '\\').afterByte c⟩
  | c :: _ => .error ⟨.unfinishedSurrogate, p.afterByte c⟩

/-- A character by its code point, or by two surrogates. -/
def readUnicodeEscape (p : Place) (text : List Char) : ReadResult Char :=
  match readHexFour p text with
  | .error e => .error e
  | .ok (n, p, rest) =>
    if isTrailing n then .error ⟨.loneSurrogate, p⟩
    else if isLeading n then readTrailing n p rest
    else .ok (Char.ofNat n, p, rest)

/-- The character that a letter behind a backslash stands for. -/
def escapeLetters : List (Char × Char) := [
  ('"', '"'), ('\\', '\\'), ('/', '/'), ('b', '\x08'), ('f', '\x0c'), ('n', '\n'), ('r', '\r'),
  ('t', '\t')]

/-- What stands behind a backslash. -/
def readStringEscape (p : Place) : List Char → ReadResult Char
  | [] => .error ⟨.endInString, p⟩
  | c :: rest =>
    if c = 'u' then readUnicodeEscape (p.after c) rest
    else match escapeLetters.lookup c with
      | some d => .ok (d, p.after c, rest)
      | none => .error ⟨.invalidEscape, p.afterByte c⟩

/-- The rest of a string up to its quote. The characters so far are given last first. More fuel
than there are characters is enough. -/
def readStringFrom : Nat → List Char → Place → List Char → ReadResult String
  | 0, _, p, _ => .error ⟨.endInString, p⟩
  | _ + 1, _, p, [] => .error ⟨.endInString, p⟩
  | fuel + 1, done, p, c :: rest =>
    if c = '"' then .ok (String.ofList done.reverse, p.after c, rest)
    else if c = '\\' then
      match readStringEscape (p.after c) rest with
      | .error e => .error e
      | .ok (d, p, rest) => readStringFrom fuel (d :: done) p rest
    else if c.toNat < 0x20 then .error ⟨.controlCharacter, p.after c⟩
    else readStringFrom fuel (c :: done) (p.after c) rest

/-- A string behind its opening quote. -/
def readString (fuel : Nat) (p : Place) (text : List Char) : ReadResult String :=
  readStringFrom fuel [] p text

def digitValue (c : Char) : Nat := c.toNat - '0'.toNat

/-- Digits taken into a whole number while it stays below `2 ^ 64`, and how many were left. -/
def absorb (n : Nat) : List Char → Nat × Nat
  | [] => (n, 0)
  | c :: rest =>
    let next := n * 10 + digitValue c
    if next < 0x10000000000000000 then absorb next rest else (n, rest.length + 1)

/-- Digits taken into an exponent while it stays below `2 ^ 31`, or how many were read until it
did not. -/
def absorbExponent (n count : Nat) : List Char → Except Nat Nat
  | [] => .ok n
  | c :: rest =>
    let next := n * 10 + digitValue c
    if next < 0x80000000 then absorbExponent next (count + 1) rest else .error (count + 1)

/-- A double, if it is not too large. -/
def finish (negative : Bool) (significand : Nat) (e : Int) (p : Place) (rest : List Char) :
    ReadResult Number :=
  match floatOfDecimal negative significand e with
  | some x => .ok (.float x, p, rest)
  | none => .error ⟨.numberOutOfRange, p⟩

/-- The exponent behind its letter. -/
def readExponent (negative : Bool) (significand : Nat) (e : Int) (p : Place) (text : List Char) :
    ReadResult Number :=
  let (down, p, text) : Bool × Place × List Char := match text with
    | '+' :: rest => (false, p.after '+', rest)
    | '-' :: rest => (true, p.after '-', rest)
    | text => (false, p, text)
  match text with
  | [] => .error ⟨.endInValue, p⟩
  | c :: _ =>
    if c.isDigit then
      let digits := text.takeWhile Char.isDigit
      let rest := text.dropWhile Char.isDigit
      let behind := p.afterAll digits
      match absorbExponent 0 0 digits with
      | .ok n => finish negative significand (if down then e - n else e + n) behind rest
      | .error count =>
        if significand ≠ 0 ∧ !down then
          .error ⟨.numberOutOfRange, ⟨p.line, p.column + count⟩⟩
        else .ok (.float (if negative then -0.0 else 0.0), behind, rest)
    else .error ⟨.invalidNumber, p.afterByte c⟩

/-- The digits behind the point, and an exponent if one follows. -/
def readFraction (negative : Bool) (significand : Nat) (e : Int) (p : Place) (text : List Char) :
    ReadResult Number :=
  match text.takeWhile Char.isDigit with
  | [] => .error ⟨if text.isEmpty then .endInValue else .invalidNumber, p.peek text⟩
  | digits =>
    let (n, left) := absorb significand digits
    let e := e - (digits.length - left : Nat)
    let p := p.afterAll digits
    match text.dropWhile Char.isDigit with
    | 'e' :: rest => readExponent negative n e (p.after 'e') rest
    | 'E' :: rest => readExponent negative n e (p.after 'E') rest
    | rest => finish negative n e p rest

/-- What follows the whole part of a number of which `left` digits did not fit. -/
def readNumberTail (negative : Bool) (significand left : Nat) (p : Place) (text : List Char) :
    ReadResult Number :=
  match text with
  | '.' :: rest => readFraction negative significand left (p.after '.') rest
  | 'e' :: rest => readExponent negative significand left (p.after 'e') rest
  | 'E' :: rest => readExponent negative significand left (p.after 'E') rest
  | rest =>
    if left ≠ 0 then finish negative significand left p rest
    else if !negative then .ok (.integer significand, p, rest)
    else if 0 < significand ∧ significand ≤ 0x8000000000000000 then
      .ok (.integer (-significand), p, rest)
    else .ok (.float (-(significand.toUInt64.toFloat)), p, rest)

/-- A number behind its sign. Zero is not followed by another digit. -/
def readNumber (negative : Bool) (p : Place) (text : List Char) : ReadResult Number :=
  match text with
  | [] => .error ⟨.endInValue, p⟩
  | c :: rest =>
    if !c.isDigit then .error ⟨.invalidNumber, p.afterByte c⟩
    else if c = '0' then
      let p := p.after c
      if (rest.head?.map Char.isDigit).getD false then .error ⟨.invalidNumber, p.peek rest⟩
      else readNumberTail negative 0 0 p rest
    else
      let digits := text.takeWhile Char.isDigit
      let (n, left) := absorb 0 digits
      readNumberTail negative n left (p.afterAll digits) (text.dropWhile Char.isDigit)

/-- The letters of a word behind its first one. -/
def readWord (p : Place) : List Char → List Char → Except ReadError (Place × List Char)
  | [], text => .ok (p, text)
  | _ :: _, [] => .error ⟨.endInValue, p⟩
  | w :: word, c :: rest =>
    if c = w then readWord (p.after c) word rest else .error ⟨.expectedWord, p.afterByte c⟩

/-- How deep arrays and objects may be nested, less one. -/
def depthLimit : Nat := 127

mutual

/-- A value. So many arrays and objects may still be opened. -/
def readValue : Nat → Nat → Place → List Char → ReadResult Value
  | 0, _, p, _ => .error ⟨.endInValue, p⟩
  | fuel + 1, depth, p, text =>
    match skipSpace p text with
    | (p, []) => .error ⟨.endInValue, p⟩
    | (p, c :: rest) =>
      if c = '"' then (readString fuel (p.after c) rest).map fun r => (.string r.1, r.2)
      else if c = '[' then
        match depth with
        | 0 => .error ⟨.nestedTooDeep, p.afterByte c⟩
        | depth + 1 =>
          (readItems fuel depth true [] (p.after c) rest).map fun r => (.array r.1, r.2)
      else if c = '\x7b' then
        match depth with
        | 0 => .error ⟨.nestedTooDeep, p.afterByte c⟩
        | depth + 1 =>
          (readFields fuel depth true [] (p.after c) rest).map fun r => (.object r.1, r.2)
      else if c = 'n' then
        (readWord (p.after c) "ull".toList rest).map fun r => (.null, r)
      else if c = 't' then
        (readWord (p.after c) "rue".toList rest).map fun r => (.bool true, r)
      else if c = 'f' then
        (readWord (p.after c) "alse".toList rest).map fun r => (.bool false, r)
      else if c = '-' then
        (readNumber true (p.after c) rest).map fun r => (.number r.1, r.2)
      else if c.isDigit then
        (readNumber false p (c :: rest)).map fun r => (.number r.1, r.2)
      else .error ⟨.expectedValue, p.afterByte c⟩

/-- The items of an array up to its bracket. Those so far are given last first. -/
def readItems : Nat → Nat → Bool → List Value → Place → List Char →
    ReadResult (List Value)
  | 0, _, _, _, p, _ => .error ⟨.endInList, p⟩
  | fuel + 1, depth, first, done, p, text =>
    let item (p : Place) (text : List Char) : ReadResult (List Value) :=
      match readValue fuel depth p text with
      | .error e => .error e
      | .ok (v, p, rest) => readItems fuel depth false (v :: done) p rest
    match skipSpace p text with
    | (p, []) => .error ⟨.endInList, p⟩
    | (p, c :: rest) =>
      if c = ']' then .ok (done.reverse, p.after c, rest)
      else if first then item p (c :: rest)
      else if c = ',' then
        match skipSpace (p.after c) rest with
        | (p, []) => .error ⟨.endInValue, p⟩
        | (p, d :: rest) =>
          if d = ']' then .error ⟨.trailingComma, p.afterByte d⟩ else item p (d :: rest)
      else .error ⟨.expectedListComma, p.afterByte c⟩

/-- The fields of an object up to its brace. A key that comes again keeps its place and gets the
later value. -/
def readFields : Nat → Nat → Bool → List (String × Value) → Place → List Char →
    ReadResult (List (String × Value))
  | 0, _, _, _, p, _ => .error ⟨.endInObject, p⟩
  | fuel + 1, depth, first, done, p, text =>
    let field (p : Place) (text : List Char) : ReadResult (List (String × Value)) :=
      match readString fuel p text with
      | .error e => .error e
      | .ok (key, p, text) =>
        match skipSpace p text with
        | (p, []) => .error ⟨.endInObject, p⟩
        | (p, c :: rest) =>
          if c = ':' then
            match readValue fuel depth (p.after c) rest with
            | .error e => .error e
            | .ok (v, p, rest) => readFields fuel depth false (assign key v done) p rest
          else .error ⟨.expectedColon, p.afterByte c⟩
    match skipSpace p text with
    | (p, []) => .error ⟨.endInObject, p⟩
    | (p, c :: rest) =>
      if c = '\x7d' then .ok (done, p.after c, rest)
      else if first then
        if c = '"' then field (p.after c) rest else .error ⟨.keyNotString, p.afterByte c⟩
      else if c = ',' then
        match skipSpace (p.after c) rest with
        | (p, []) => .error ⟨.endInValue, p⟩
        | (p, d :: rest) =>
          if d = '"' then field (p.after d) rest
          else if d = '\x7d' then .error ⟨.trailingComma, p.afterByte d⟩
          else .error ⟨.keyNotString, p.afterByte d⟩
      else .error ⟨.expectedObjectComma, p.afterByte c⟩

end

namespace Value

/-- The tree that a text is. A value and the list around it take a character in two rounds, so
twice the length of the text is enough fuel. -/
def read (text : String) : Except ReadError Value :=
  match readValue (2 * text.length + 2) depthLimit {} text.toList with
  | .error e => .error e
  | .ok (v, p, rest) =>
    match skipSpace p rest with
    | (_, []) => .ok v
    | (p, c :: _) => .error ⟨.trailingText, p.afterByte c⟩

end Value

end TemplateMatch.Json
