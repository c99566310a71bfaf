import TemplateMatch.Regex.EscapeReader

/-! Writing text as an expression that matches just that text. -/

namespace TemplateMatch.Regex

/-- A backslash in front of every character with a meaning of its own. -/
def escapeChars (text : List Char) : List Char :=
  text.flatMap fun c => if isMeta c then ['\\', c] else [c]

def escape (text : String) : String := String.ofList (escapeChars text.toList)

@[simp] theorem escapeChars_nil : escapeChars [] = [] := rfl

theorem escapeChars_cons (c : Char) (text : List Char) :
    escapeChars (c :: text) = (if isMeta c then ['\\', c] else [c]) ++ escapeChars text := rfl

@[simp] theorem escapeChars_append (s t : List Char) :
    escapeChars (s ++ t) = escapeChars s ++ escapeChars t := by
  simp [escapeChars]

end TemplateMatch.Regex
