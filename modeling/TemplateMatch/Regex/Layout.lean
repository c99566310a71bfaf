import TemplateMatch.Unicode.Blank

/-! White space and comments between the parts of a spaced expression. -/

namespace TemplateMatch.Regex

/-- Drops white space and comments; a comment runs from a number sign to the end of its line. -/
def dropLayout (comment : Bool) : List Char → List Char
  | [] => []
  | c :: rest =>
    if comment then dropLayout (c != '\n') rest
    else if Unicode.isBlank c then dropLayout false rest
    else if c = '#' then dropLayout true rest
    else c :: rest

/-- The text where its next part begins. -/
def layout (spaced : Bool) (text : List Char) : List Char :=
  if spaced then dropLayout false text else text

@[simp] theorem layout_false (text : List Char) : layout false text = text := rfl

/-- The character that decides whether a hyphen stands before the end of a class. In spaced layout
white space is passed over, and a number sign with the white space after it. -/
def glance (spaced : Bool) (text : List Char) : Option Char :=
  if !spaced then text.head? else
  match text.dropWhile Unicode.isBlank with
  | [] => text.head?
  | '#' :: rest =>
    match rest.dropWhile Unicode.isBlank with
    | [] => text.head?
    | c :: _ => some c
  | c :: _ => some c

/-- Characters that satisfy `p`, with the layout between them dropped. -/
def gather (spaced : Bool) (p : Char → Bool) : Nat → List Char → List Char × List Char
  | fuel + 1, c :: rest =>
    if p c then
      let more := gather spaced p fuel (layout spaced rest)
      (c :: more.1, more.2)
    else ([], c :: rest)
  | _, text => ([], text)

/-- As many such characters as there are. -/
def gatherAll (spaced : Bool) (p : Char → Bool) (text : List Char) : List Char × List Char :=
  gather spaced p text.length text

end TemplateMatch.Regex
