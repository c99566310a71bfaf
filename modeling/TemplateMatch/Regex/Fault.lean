/-! What can be wrong with the text of an expression. -/

namespace TemplateMatch.Regex

/-- Why a text is no expression. -/
inductive Fault
  | groupUnopened
  | groupUnclosed
  | groupNameUnclosed
  | groupNameInvalid
  | groupNameEmpty
  | groupNameRepeated
  | lookAround
  | flagsUnclosed
  | flagUnknown
  | flagRepeated
  | flagDangling
  | operandMissing
  | countUnclosed
  | countEmpty
  | countTooLarge
  | countReversed
  | escapeUnfinished
  | escapeUnknown
  | backReference
  | digitInvalid
  | digitsMissing
  | codePointInvalid
  | boundaryUnclosed
  | boundaryUnknown
  | classUnclosed
  | classRangeReversed
  | classRangeEnd
  | classItem
  | propertyNameInvalid
  | propertyUnknown
  | unicodeDisabled
  | nestedTooDeep
deriving DecidableEq, Repr

def Fault.message : Fault → String
  | .groupUnopened => "unopened group"
  | .groupUnclosed => "unclosed group"
  | .groupNameUnclosed => "unclosed capture group name"
  | .groupNameInvalid => "invalid capture group character"
  | .groupNameEmpty => "empty capture group name"
  | .groupNameRepeated => "duplicate capture group name"
  | .lookAround => "look-around is not supported"
  | .flagsUnclosed => "expected flag but got end of regex"
  | .flagUnknown => "unrecognized flag"
  | .flagRepeated => "duplicate flag"
  | .flagDangling => "dangling flag negation operator"
  | .operandMissing => "repetition operator missing expression"
  | .countUnclosed => "unclosed counted repetition"
  | .countEmpty => "repetition quantifier expects a valid decimal"
  | .countTooLarge => "decimal literal invalid"
  | .countReversed => "invalid repetition count range"
  | .escapeUnfinished => "incomplete escape sequence"
  | .escapeUnknown => "unrecognized escape sequence"
  | .backReference => "backreferences are not supported"
  | .digitInvalid => "invalid hexadecimal digit"
  | .digitsMissing => "hexadecimal literal empty"
  | .codePointInvalid => "hexadecimal literal is not a Unicode scalar value"
  | .boundaryUnclosed => "special word boundary assertion is unclosed"
  | .boundaryUnknown => "unrecognized special word boundary assertion"
  | .classUnclosed => "unclosed character class"
  | .classRangeReversed => "invalid character class range"
  | .classRangeEnd => "invalid range boundary, must be a literal"
  | .classItem => "invalid escape sequence found in character class"
  | .propertyNameInvalid => "invalid Unicode character class"
  | .propertyUnknown => "Unicode property not found"
  | .unicodeDisabled => "Unicode not allowed here"
  | .nestedTooDeep => "exceeds the nest limit"

/-- Why an expression cannot be used. -/
inductive Error
  | malformed (fault : Fault)
  | tooLarge (limit : Nat)
deriving DecidableEq, Repr

def Error.message : Error → String
  | .malformed fault => "regex parse error: " ++ fault.message
  | .tooLarge limit => "Compiled regex exceeds size limit of " ++ toString limit ++ " bytes."

end TemplateMatch.Regex
