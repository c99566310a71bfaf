import TemplateMatch.Delimiters
import TemplateMatch.Regex.Fault

/-! Why a template cannot be used. Positions count bytes of the template from zero. -/

namespace TemplateMatch

inductive PatternError
  | emptyPlaceholder (position : Nat)
  | unboundSymbol (name : String) (position : Nat)
  | delimiters (cause : DelimiterError)
  | expression (cause : Regex.Error)
deriving DecidableEq

namespace PatternError

def message : PatternError → String
  | .emptyPlaceholder position =>
      "empty placeholder name at byte " ++ toString position ++ " (zero-based)"
  | .unboundSymbol name position =>
      "unbound symbol `" ++ name ++ "` referenced at byte " ++ toString position ++ " (zero-based)"
  | .delimiters cause => "invalid placeholder delimiters: " ++ cause.message
  | .expression cause => cause.message

/-- The template's text is no expression. -/
def isMalformed : PatternError → Bool
  | .expression (.malformed _) => true
  | _ => false

/-- The template's expression needs more space than is allowed. -/
def isTooLarge : PatternError → Bool
  | .expression (.tooLarge _) => true
  | _ => false

end PatternError

end TemplateMatch
