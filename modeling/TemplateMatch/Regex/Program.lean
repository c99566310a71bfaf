import TemplateMatch.Regex.Matching
import TemplateMatch.Regex.Meaning
import TemplateMatch.Regex.Reader

/-! Compiled expressions. -/

namespace TemplateMatch.Regex

/-- An expression with the text it was compiled from. -/
structure Program where
  source : String
  expr : Expr

namespace Program

/-- The bytes that a compiled expression may take. -/
def sizeLimit : Nat := 268435456

/-- Compiles a text under flags; a text that is no expression is found out before its size. -/
def compile (fl : Flags) (source : String) : Except Error Program :=
  match Tree.read source.toList with
  | .error fault => .error (.malformed fault)
  | .ok tree =>
    match tree.meaning fl with
    | .error fault => .error (.malformed fault)
    | .ok (expr, _) =>
      if expr.size ≤ sizeLimit then .ok ⟨source, expr⟩ else .error (.tooLarge sizeLimit)

def find (p : Program) (text : String) : Option Match := p.expr.find text.toList

def isMatch (p : Program) (text : String) : Bool := (p.find text).isSome

end Program

end TemplateMatch.Regex
