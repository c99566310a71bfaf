/-! Places in a text as errors give them: the line, and the bytes before it in that line. -/

namespace TemplateMatch.Json

structure Place where
  line : Nat := 1
  column : Nat := 0
deriving DecidableEq, Repr

namespace Place

def after (p : Place) (c : Char) : Place :=
  if c = '\n' then ⟨p.line + 1, 0⟩ else ⟨p.line, p.column + c.utf8Size⟩

/-- Behind the first byte of a character. -/
def afterByte (p : Place) (c : Char) : Place :=
  if c = '\n' then ⟨p.line + 1, 0⟩ else ⟨p.line, p.column + 1⟩

/-- Behind the next byte of the text, if there is one. -/
def peek (p : Place) : List Char → Place
  | [] => p
  | c :: _ => p.afterByte c

def afterAll (p : Place) (text : List Char) : Place := text.foldl after p

/-- Behind so many bytes of the text. -/
def afterBytes (p : Place) : Nat → List Char → Place
  | _, [] => p
  | n, c :: rest =>
    if n = 0 then p
    else if c.utf8Size ≤ n then afterBytes (p.after c) (n - c.utf8Size) rest
    else ⟨p.line, p.column + n⟩

end Place

end TemplateMatch.Json
