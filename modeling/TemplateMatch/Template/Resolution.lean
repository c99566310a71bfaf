import TemplateMatch.Template.Synthesis

/-! Reading symbols out of a text by a template, and writing them into one. -/

namespace TemplateMatch

/-- How a value is written into a template. -/
inductive Substitution
  | plain
  /-- So that the value matches verbatim inside an expression. -/
  | quoted
deriving DecidableEq, Repr

def Substitution.write : Substitution → String → String
  | .plain, value => value
  | .quoted, value => Regex.escape value

namespace Template

/-- The symbols that a source gives for the unbound placeholders; none if it does not match. -/
def extract (o : TemplateOptions) (bound : Bindings) (template source : String) :
    Except PatternError (List (String × String)) :=
  match Synthesis.ofTemplate o bound template with
  | .error e => .error e
  | .ok s =>
    if s.names.isEmpty then .ok []
    else .ok (((s.captures source).map lastWriteWins).getD [])

def resolveTokens (bound : Bindings) (substitution : Substitution) :
    List Token → Except PatternError String
  | [] => .ok ""
  | .literal text :: tokens => (resolveTokens bound substitution tokens).map (text ++ ·)
  | .placeholder position name :: tokens =>
    match bound name with
    | none => .error (.unboundSymbol name position)
    | some value =>
      (resolveTokens bound substitution tokens).map (substitution.write value ++ ·)

/-- The template with every placeholder replaced by its value. Values are not searched for
placeholders. -/
def resolve (d : Delimiters) (bound : Bindings) (substitution : Substitution) (template : String) :
    Except PatternError String :=
  match lex d template with
  | .error e => .error e
  | .ok tokens => resolveTokens bound substitution tokens

end Template

end TemplateMatch
