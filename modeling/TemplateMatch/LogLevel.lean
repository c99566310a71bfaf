import TemplateMatch.Unicode.Blank

/-! How much is logged. -/

namespace TemplateMatch

inductive LogLevel
  | trace
  | debug
  | info
  | warn
  | error
deriving DecidableEq, Repr

/-- A label that names no level. -/
structure UnknownLogLevel where
  label : String
deriving DecidableEq

def UnknownLogLevel.message (e : UnknownLogLevel) : String :=
  "unknown log level '" ++ e.label ++ "', expected one of: trace, debug, info, warn, error"

namespace LogLevel

def label : LogLevel → String
  | .trace => "trace"
  | .debug => "debug"
  | .info => "info"
  | .warn => "warn"
  | .error => "error"

/-- The level of a label, whatever its case and the white space around it. Lower case of ASCII is
enough, since no other character has a letter of these words as its lower case. -/
def ofLabel (text : String) : Except UnknownLogLevel LogLevel :=
  let word := Unicode.asciiLower (Unicode.trim text)
  if word = "trace" then .ok .trace
  else if word = "debug" then .ok .debug
  else if word = "info" then .ok .info
  else if word = "warn" ∨ word = "warning" then .ok .warn
  else if word = "error" then .ok .error
  else .error ⟨text⟩

/-- The flag's level, else that of the variable if it names one, else warnings. -/
def effective (flag : Option LogLevel) (setting : Option String) : LogLevel :=
  match flag with
  | some level => level
  | none => ((setting.bind fun value => (ofLabel value).toOption)).getD .warn

end LogLevel

end TemplateMatch
