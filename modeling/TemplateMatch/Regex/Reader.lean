import TemplateMatch.Regex.ClassReader

/-!
Reading an expression. `Tree.read` accepts a text when it is an expression of the grammar whose
parts are nested no deeper than `Tree.heightLimit`.
-/

namespace TemplateMatch.Regex

/-- What earlier parts of the text decide about later ones. -/
structure Reading where
  /-- Whether white space and comments are layout. -/
  spaced : Bool
  /-- The group names so far. -/
  names : List String

/-- Switches up to the closing parenthesis or the colon, which is kept. Nothing occurs twice, and
the sign of switching off is not the last. -/
def readFlagItems : List FlagItem → List Char → Except Fault (List FlagItem × List Char)
  | _, [] => .error .flagsUnclosed
  | items, c :: rest =>
    if c = ':' ∨ c = ')' then
      if items.head? = some .off then .error .flagDangling
      else .ok (items.reverse, c :: rest)
    else
      let item? := if c = '-' then some .off else (Flag.ofLetter? c).map .flag
      match item? with
      | none => .error .flagUnknown
      | some item =>
        if items.contains item then .error .flagRepeated
        else readFlagItems (item :: items) rest

/-- Whether a character may stand in a group's name, first or later. -/
def isNameStart (c : Char) : Bool := c == '_' || Unicode.isAlphabetic c

def isNamePart (c : Char) : Bool :=
  c == '_' || c == '.' || c == '[' || c == ']' || Unicode.isAlphanumeric c

/-- A group's name up to the angle bracket, which is passed. -/
def readGroupName (names : List String) (text : List Char) : Except Fault (String × List Char) :=
  match text.takeWhile (· != '>'), text.dropWhile (· != '>') with
  | _, [] => .error .groupNameUnclosed
  | [], _ => .error .groupNameEmpty
  | c :: cs, _ :: rest =>
    if isNameStart c && cs.all isNamePart then
      let name := String.ofList (c :: cs)
      if names.contains name then .error .groupNameRepeated else .ok (name, rest)
    else .error .groupNameInvalid

/-- What an opening parenthesis begins. -/
inductive Opening
  | switch (items : List FlagItem)
  | group (kind : GroupKind)

/-- Reads what tells the kind of a group after its parenthesis. -/
def readOpening (st : Reading) (text : List Char) :
    Except Fault (Opening × Reading × List Char) :=
  let named (text : List Char) : Except Fault (Opening × Reading × List Char) := do
    let (name, rest) ← readGroupName st.names text
    return (.group (.capture (some name)), { st with names := name :: st.names }, rest)
  match layout st.spaced text with
  | '?' :: '=' :: _ | '?' :: '!' :: _ | '?' :: '<' :: '=' :: _ | '?' :: '<' :: '!' :: _ =>
    .error .lookAround
  | '?' :: 'P' :: '<' :: rest => named rest
  | '?' :: '<' :: rest => named rest
  | '?' :: rest => do
    match ← readFlagItems [] rest with
    | ([], ')' :: _) => .error .operandMissing
    | (items, ')' :: rest) =>
      let spaced := (FlagItem.spaced? items).getD st.spaced
      return (.switch items, { st with spaced := spaced }, rest)
    | (items, rest) =>
      let spaced := (FlagItem.spaced? items).getD st.spaced
      return (.group (.flags items), { st with spaced := spaced }, rest.tail)
  | text => .ok (.group (.capture none), st, text)

/-- A number in decimal with white space around it. -/
def readCount (spaced : Bool) (text : List Char) : Except Fault (Nat × List Char) :=
  match gatherAll spaced Char.isDigit (text.dropWhile Unicode.isBlank) with
  | ([], _) => .error .countEmpty
  | (digits, rest) =>
    let n := digits.foldl (fun n c => n * 10 + (c.toNat - '0'.toNat)) 0
    if n < 0x100000000 then .ok (n, rest.dropWhile Unicode.isBlank) else .error .countTooLarge

/-- The bounds of a counted repetition after its brace. -/
def readBounds (spaced : Bool) (text : List Char) :
    Except Fault ((Nat × Option Nat) × List Char) := do
  let (low, rest) ← readCount spaced (layout spaced text)
  match rest with
  | '\x7d' :: rest => return ((low, some low), rest)
  | ',' :: rest =>
    match layout spaced rest with
    | '\x7d' :: rest => return ((low, none), rest)
    | text =>
      match ← readCount spaced text with
      | (high, '\x7d' :: rest) =>
        if low ≤ high then return ((low, some high), rest) else .error .countReversed
      | _ => .error .countUnclosed
  | _ => .error .countUnclosed

/-- An operator of repetition with its bounds, and whether it is greedy. -/
def readRepetition (spaced : Bool) (op : Char) (rest : List Char) :
    Except Fault ((Nat × Option Nat × Bool) × List Char) := do
  let ((low, high), rest) ←
    match op with
    | '?' => .ok ((0, some 1), rest)
    | '*' => .ok ((0, none), rest)
    | '+' => .ok ((1, none), rest)
    | _ => (readBounds spaced rest).map fun r => (r.1, layout spaced r.2)
  match rest with
  | '?' :: rest => return ((low, high, false), rest)
  | rest => return ((low, high, true), rest)

def isRepetitionOp (c : Char) : Bool := c == '?' || c == '*' || c == '+' || c == '\x7b'

/-- A dot, an anchor, an escape or a character that stands for itself. -/
def readPrimitive (spaced : Bool) (c : Char) (rest : List Char) :
    Except Fault (Primitive × List Char) :=
  if c = '\\' then readEscape spaced rest
  else if c = '.' then .ok (.dot, rest)
  else if c = '^' then .ok (.assertion .lineStart, rest)
  else if c = '$' then .ok (.assertion .lineStop, rest)
  else .ok (.literal ⟨c, false⟩, rest)

/-- Reads to the end of the text or to a closing parenthesis, which is kept. The branches and the
items of the current branch so far are given last first. -/
def readBranches :
    Nat → Reading → List Tree → List Tree → List Char →
      Except Fault (Tree × Reading × List Char)
  | 0, _, _, _, _ => .error .groupUnclosed
  | fuel + 1, st, branches, items, text =>
    match layout st.spaced text with
    | [] =>
      .ok (.ofBranches (Tree.ofSequence items.reverse :: branches).reverse, st, [])
    | c :: rest =>
      if c = ')' then
        .ok (.ofBranches (Tree.ofSequence items.reverse :: branches).reverse, st, c :: rest)
      else if c = '|' then
        readBranches fuel st (Tree.ofSequence items.reverse :: branches) [] rest
      else if c = '(' then
        match readOpening st rest with
        | .error e => .error e
        | .ok (.switch switches, st, rest) =>
          readBranches fuel st branches (.flags switches :: items) rest
        | .ok (.group kind, inner, rest) =>
          match readBranches fuel inner [] [] rest with
          | .error e => .error e
          | .ok (_, _, []) => .error .groupUnclosed
          | .ok (body, after, _ :: rest) =>
            readBranches fuel { st with names := after.names } branches
              (.group kind body :: items) rest
      else if c = '[' then
        match readClass st.spaced rest with
        | .error e => .error e
        | .ok (tree, rest) => readBranches fuel st branches (tree :: items) rest
      else if isRepetitionOp c then
        match items with
        | [] => .error .operandMissing
        | operand :: items =>
          if operand.isOperand then
            match readRepetition st.spaced c rest with
            | .error e => .error e
            | .ok ((low, high, greedy), rest) =>
              readBranches fuel st branches (.repetition low high greedy operand :: items) rest
          else .error .operandMissing
      else
        match readPrimitive st.spaced c rest with
        | .error e => .error e
        | .ok (primitive, rest) => readBranches fuel st branches (primitive.toTree :: items) rest

namespace Tree

def heightLimit : Nat := 250

/-- The expression that a text is. Every round of `readBranches` takes a character, so the length
of the text is enough fuel. -/
def read (text : List Char) : Except Fault Tree :=
  match readBranches (text.length + 1) ⟨false, []⟩ [] [] text with
  | .error e => .error e
  | .ok (_, _, _ :: _) => .error .groupUnopened
  | .ok (tree, _, []) => if tree.height ≤ heightLimit then .ok tree else .error .nestedTooDeep

end Tree

end TemplateMatch.Regex
