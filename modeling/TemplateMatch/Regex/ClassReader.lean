import TemplateMatch.Regex.EscapeReader

/-! Reading a class in brackets. -/

namespace TemplateMatch.Regex

/-- An escape or any other character, as it may stand inside brackets. -/
def readClassMember (spaced : Bool) : List Char → Except Fault (Primitive × List Char)
  | [] => .error .classUnclosed
  | '\\' :: rest => readEscape spaced rest
  | c :: rest => .ok (.literal ⟨c, false⟩, rest)

def Primitive.toItem : Primitive → Except Fault ClassTree
  | .literal l => .ok (.literal l)
  | .shorthand s negated => .ok (.shorthand s negated)
  | .property q negated => .ok (.property q negated)
  | .dot | .assertion _ => .error .classItem

def Primitive.toEnd : Primitive → Except Fault Literal
  | .literal l => .ok l
  | _ => .error .classRangeEnd

/-- One member, or a range when a hyphen follows that ends neither the class nor its left side. -/
def readClassItem (spaced : Bool) (text : List Char) : Except Fault (ClassTree × List Char) := do
  let (low, rest) ← readClassMember spaced text
  match layout spaced rest with
  | [] => .error .classUnclosed
  | '-' :: rest =>
    let next := glance spaced rest
    if next = some ']' ∨ next = some '-' then
      return (← low.toItem, '-' :: rest)
    else
      match layout spaced rest with
      | [] => .error .classUnclosed
      | text =>
        let (high, rest) ← readClassMember spaced text
        let low ← low.toEnd
        let high ← high.toEnd
        if low.char ≤ high.char then return (.range low high, rest)
        else .error .classRangeReversed
  | rest => return (← low.toItem, rest)

/-- A named class of ASCII after its opening bracket, if that is what the text is. -/
def readAsciiClass? (text : List Char) : Option (ClassTree × List Char) :=
  match text with
  | ':' :: text =>
    let (negated, text) := match text with
      | '^' :: text => (true, text)
      | text => (false, text)
    match text.dropWhile (· != ':') with
    | ':' :: ']' :: rest =>
      (asciiClass? (String.ofList (text.takeWhile (· != ':')))).map fun rs =>
        (.ascii rs negated, rest)
    | _ => none
  | _ => none

/-- After an opening bracket: the sign of negation, then hyphens, or one closing bracket, that
stand for themselves. The items are given last first. -/
def openClass (spaced : Bool) (text : List Char) :
    Except Fault (Bool × List ClassTree × List Char) :=
  let (negated, text) := match layout spaced text with
    | '^' :: rest => (true, layout spaced rest)
    | text => (false, text)
  let (hyphens, text) := gatherAll spaced (· == '-') text
  let items := hyphens.map fun c => ClassTree.literal ⟨c, false⟩
  match items, text with
  | _, [] => .error .classUnclosed
  | [], ']' :: rest =>
    match layout spaced rest with
    | [] => .error .classUnclosed
    | text => .ok (negated, [.literal ⟨']', false⟩], text)
  | items, text => .ok (negated, items, text)

/-- An operator waiting for its right side. -/
abbrev Pending := Option (ClassOp × ClassTree)

/-- The right side is a union of the items, given last first. -/
def Pending.close (pending : Pending) (items : List ClassTree) : ClassTree :=
  let right := ClassTree.ofItems items.reverse
  match pending with
  | none => right
  | some (o, left) => .op o left right

/-- Reads to the closing bracket. Operators bind alike and to the left. -/
def readClassBody (spaced : Bool) :
    Nat → Pending → List ClassTree → List Char → Except Fault (ClassTree × List Char)
  | 0, _, _, _ => .error .classUnclosed
  | fuel + 1, pending, items, text =>
    match layout spaced text with
    | [] => .error .classUnclosed
    | '[' :: rest =>
      match readAsciiClass? rest with
      | some (item, rest) => readClassBody spaced fuel pending (item :: items) rest
      | none =>
        match openClass spaced rest with
        | .error e => .error e
        | .ok (negated, first, rest) =>
          match readClassBody spaced fuel none first rest with
          | .error e => .error e
          | .ok (body, rest) =>
            readClassBody spaced fuel pending (.bracket negated body :: items) rest
    | ']' :: rest => .ok (pending.close items, rest)
    | '&' :: '&' :: rest =>
      readClassBody spaced fuel (some (.inter, pending.close items)) [] rest
    | '-' :: '-' :: rest =>
      readClassBody spaced fuel (some (.diff, pending.close items)) [] rest
    | '~' :: '~' :: rest =>
      readClassBody spaced fuel (some (.symmDiff, pending.close items)) [] rest
    | text =>
      match readClassItem spaced text with
      | .error e => .error e
      | .ok (item, rest) => readClassBody spaced fuel pending (item :: items) rest

/-- Reads a class whose opening bracket has been passed. Every round of `readClassBody` takes a
character, so the length of the text is enough fuel. -/
def readClass (spaced : Bool) (text : List Char) : Except Fault (Tree × List Char) :=
  match openClass spaced text with
  | .error e => .error e
  | .ok (negated, first, rest) =>
    match readClassBody spaced (rest.length + 1) none first rest with
    | .error e => .error e
    | .ok (body, rest) => .ok (.bracket negated body, rest)

end TemplateMatch.Regex
