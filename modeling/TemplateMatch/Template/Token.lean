import TemplateMatch.Split
import TemplateMatch.Template.Error

/-!
Templates as runs of literal text and placeholders: `lex` cuts a template into tokens and `render`
writes tokens as a template.
-/

namespace TemplateMatch

inductive Token
  | literal (text : String)
  /-- The position is that of the start delimiter. -/
  | placeholder (position : Nat) (name : String)
deriving DecidableEq, Repr

namespace Token

/-- A run of literal text, nothing for the empty text. -/
def run (text : List Char) : List Token :=
  if text.isEmpty then [] else [.literal (String.ofList text)]

end Token

/-- The bytes that characters take in UTF-8. -/
def byteSize (text : List Char) : Nat := (String.ofList text).utf8ByteSize

namespace Template

theorem length_after_lt {d : Delimiters} {text before opened name after : List Char}
    (hs : splitOnce d.start.toList text = some (before, opened))
    (ht : splitOnce d.stop.toList opened = some (name, after)) :
    after.length < text.length := by
  have h₁ := congrArg List.length (splitOnce_eq_some hs)
  have h₂ := congrArg List.length (splitOnce_eq_some ht)
  have h₃ : 0 < d.start.toList.length := by
    rw [List.length_pos_iff]
    intro h
    exact d.start_ne (String.toList_eq_nil_iff.mp h)
  simp only [List.length_append] at h₁ h₂
  omega

/-- Tokens of the text that lies `offset` bytes into the template. A start delimiter that no end
delimiter follows is literal text. -/
def lexFrom (d : Delimiters) (offset : Nat) (text : List Char) :
    Except PatternError (List Token) :=
  match _ : splitOnce d.start.toList text with
  | none => .ok (Token.run text)
  | some (before, opened) =>
    match _ : splitOnce d.stop.toList opened with
    | none => .ok (Token.run text)
    | some (name, after) =>
      let position := offset + byteSize before
      if name.isEmpty then .error (.emptyPlaceholder position)
      else
        let next := position + d.start.utf8ByteSize + byteSize name + d.stop.utf8ByteSize
        match lexFrom d next after with
        | .error e => .error e
        | .ok tokens =>
          .ok (Token.run before ++ .placeholder position (String.ofList name) :: tokens)
termination_by text.length
decreasing_by exact length_after_lt (by assumption) (by assumption)

/-- Literal runs and placeholders of a template. A name ends at the first end delimiter. -/
def lex (d : Delimiters) (template : String) : Except PatternError (List Token) :=
  lexFrom d 0 template.toList

end Template

namespace Token

/-- The text a token was cut from. -/
def render (d : Delimiters) : Token → String
  | .literal text => text
  | .placeholder _ name => d.enclose name

def name? : Token → Option String
  | .literal _ => none
  | .placeholder _ name => some name

def literal? : Token → Option String
  | .literal text => some text
  | .placeholder _ _ => none

end Token

namespace Template

/-- Writes tokens one after the other. -/
def render (d : Delimiters) (tokens : List Token) : String :=
  String.join (tokens.map (Token.render d))

/-- Placeholder names in order of appearance, repeats included. -/
def names (d : Delimiters) (template : String) : Except PatternError (List String) :=
  (lex d template).map (List.filterMap Token.name?)

end Template

end TemplateMatch
