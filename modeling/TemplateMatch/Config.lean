import TemplateMatch.Template.Synthesis

/-! Settings of a comparison, their defaults, and the variables that set them. -/

namespace TemplateMatch

/-- How fields that only the actual object has are taken. -/
inductive FieldMode
  /-- They are mismatches. -/
  | strict
  | lenient
deriving DecidableEq, Repr

instance : Inhabited FieldMode := ⟨.lenient⟩

inductive ConfigError
  | fieldMode (label : String)
  | notBoolean (setting value : String)
  | delimiters (cause : DelimiterError)
  | templateMode (cause : UnknownTemplateMode)
deriving DecidableEq

def ConfigError.message (e : ConfigError) : String :=
  "invalid configuration: " ++
    match e with
    | .fieldMode label => "unknown field mode '" ++ label ++ "', expected strict or lenient"
    | .notBoolean setting value =>
        "invalid " ++ setting ++ " value '" ++ value ++ "', expected a boolean"
    | .delimiters cause => (PatternError.delimiters cause).message
    | .templateMode cause => cause.message

namespace FieldMode

def label : FieldMode → String
  | .strict => "strict"
  | .lenient => "lenient"

/-- The mode of a label, whatever its case and the white space around it. -/
def ofLabel (text : String) : Except ConfigError FieldMode :=
  let word := Unicode.asciiLower (Unicode.trim text)
  if word = "strict" then .ok .strict
  else if word = "lenient" then .ok .lenient
  else .error (.fieldMode text)

end FieldMode

structure Config where
  fieldMode : FieldMode := .lenient
  ignoreCase : Bool := true
  delimiters : Delimiters := .standard
  templateMode : TemplateMode := .auto
deriving DecidableEq

/-- Settings that replace those of a configuration. -/
structure Overrides where
  fieldMode : Option FieldMode := none
  ignoreCase : Option Bool := none
  delimiters : Option Delimiters := none
  templateMode : Option TemplateMode := none
deriving DecidableEq

namespace Config

instance : Inhabited Config := ⟨{}⟩

def templateOptions (c : Config) : TemplateOptions :=
  ⟨c.delimiters, c.templateMode, c.ignoreCase⟩

def override (c : Config) (o : Overrides) : Config where
  fieldMode := o.fieldMode.getD c.fieldMode
  ignoreCase := o.ignoreCase.getD c.ignoreCase
  delimiters := o.delimiters.getD c.delimiters
  templateMode := o.templateMode.getD c.templateMode

/-- The name of the variable for a setting. -/
def varName (setting : String) : String := "SCENARIO_MATCH_" ++ setting

/-- Truth values in lower case, upper case or with a capital, and as a digit. -/
def boolean? (text : String) : Option Bool :=
  let word := Unicode.trim text
  if ["1", "true", "TRUE", "True", "yes", "YES", "Yes", "on", "ON", "On"].contains word then
    some true
  else if ["0", "false", "FALSE", "False", "no", "NO", "No", "off", "OFF", "Off"].contains word then
    some false
  else none

def readBoolean (setting text : String) : Except ConfigError Bool :=
  match boolean? text with
  | some b => .ok b
  | none => .error (.notBoolean (varName setting) text)

/-- A setting by its variable, if that is set. -/
def readVariable {α : Type} (lookup : String → Option String) (setting : String)
    (read : String → Except ConfigError α) : Except ConfigError (Option α) :=
  match lookup (varName setting) with
  | none => .ok none
  | some text => (read text).map some

/-- A pair of delimiters when one is given; the other is then taken from a base. -/
def pairOver (base : Delimiters) (start stop : Option String) :
    Except DelimiterError (Option Delimiters) :=
  if start.isNone && stop.isNone then .ok none
  else (Delimiters.ofTexts (start.getD base.start) (stop.getD base.stop)).map some

/-- The settings that the variables give, read in the order of the first wrong one reported: field
mode, case, delimiters, template mode. -/
def variableOverrides (lookup : String → Option String) : Except ConfigError Overrides := do
  let fieldMode ← readVariable lookup "FIELD_MODE" FieldMode.ofLabel
  let ignoreCase ← readVariable lookup "CASE_INSENSITIVE" (readBoolean "CASE_INSENSITIVE")
  let delimiters ←
    (pairOver .standard (lookup (varName "PLACEHOLDER_START"))
      (lookup (varName "PLACEHOLDER_END"))).mapError .delimiters
  let templateMode ← readVariable lookup "TEMPLATE_MODE" fun text =>
    (TemplateMode.ofLabel text).mapError .templateMode
  return { fieldMode, ignoreCase, delimiters, templateMode }

/-- The defaults with the settings that the variables give. -/
def ofVariables (lookup : String → Option String) : Except ConfigError Config :=
  (variableOverrides lookup).map (({} : Config).override ·)

end Config

end TemplateMatch
