import TemplateMatch.Unicode.Blank

/-! How the text of a template outside its placeholders is read. -/

namespace TemplateMatch

inductive TemplateMode
  /-- As an expression if it is one, and verbatim if not. -/
  | auto
  | regex
  | literal
deriving DecidableEq, Inhabited, Repr

/-- A label that names no mode. -/
structure UnknownTemplateMode where
  label : String
deriving DecidableEq

def UnknownTemplateMode.message (e : UnknownTemplateMode) : String :=
  "unknown template mode '" ++ e.label ++ "', expected one of: auto, regex, literal"

namespace TemplateMode

def label : TemplateMode → String
  | .auto => "auto"
  | .regex => "regex"
  | .literal => "literal"

/-- The mode of a label, whatever its case and the white space around it. -/
def ofLabel (text : String) : Except UnknownTemplateMode TemplateMode :=
  let word := Unicode.asciiLower (Unicode.trim text)
  if word = "auto" then .ok .auto
  else if word = "regex" then .ok .regex
  else if word = "literal" then .ok .literal
  else .error ⟨text⟩

end TemplateMode

end TemplateMatch
