import TemplateMatch.Bindings
import TemplateMatch.Regex.Escape
import TemplateMatch.Regex.Program
import TemplateMatch.Template.Mode
import TemplateMatch.Template.Token
import TemplateMatch.Unicode.Lower

/-!
Matching a whole text against a template. `Template.source` writes a template as an expression in
which every unbound placeholder is a named group, `Synthesis.ofTemplate` compiles it, and
`Synthesis.captures` reads the placeholders off a match.
-/

namespace TemplateMatch

/-- How templates are read and matched. -/
structure TemplateOptions where
  delimiters : Delimiters := .standard
  mode : TemplateMode := .auto
  ignoreCase : Bool := true
deriving DecidableEq

/-- How a source is tested. -/
inductive Matcher
  | program (p : Regex.Program)
  /-- Equality with the text of a template that has no unbound placeholder and is too large to be
  compiled. -/
  | text (text : String) (ignoreCase : Bool)

/-- A template ready for matching. -/
structure Synthesis where
  matcher : Matcher
  /-- The unbound placeholders in order of appearance, repeats included. -/
  names : List String
  mode : TemplateMode

namespace Template

/-- The name of the group for the unbound placeholder with this number. -/
def groupName (index : Nat) : String := "__ph" ++ toString index

/-- A group that matches as little of any text as it can. -/
def captureGroup (index : Nat) : String := "(?P<" ++ groupName index ++ ">.*?)"

/-- The expression for tokens, and the names that became groups. The first of these gets the
number `index`. -/
def body (mode : TemplateMode) (bound : Bindings) (index : Nat) :
    List Token → String × List String
  | [] => ("", [])
  | .literal text :: tokens =>
    let rest := body mode bound index tokens
    ((if mode = .literal then Regex.escape text else text) ++ rest.1, rest.2)
  | .placeholder _ name :: tokens =>
    match bound name with
    | some value =>
      let rest := body mode bound index tokens
      (Regex.escape value ++ rest.1, rest.2)
    | none =>
      let rest := body mode bound (index + 1) tokens
      (captureGroup index ++ rest.1, name :: rest.2)

/-- Holds an expression between the start and the end of the text. -/
def anchored (body : String) : String := "\\A(?:" ++ body ++ ")\\z"

/-- The whole expression for tokens, and the names that became groups. -/
def source (mode : TemplateMode) (bound : Bindings) (tokens : List Token) :
    String × List String :=
  let b := body mode bound 0 tokens
  (anchored b.1, b.2)

/-- The literal text of tokens without the placeholders. -/
def literalText (tokens : List Token) : String := String.join (tokens.filterMap Token.literal?)

/-- The text that tokens stand for when every placeholder is bound. -/
def boundText? (bound : Bindings) : List Token → Option String
  | [] => some ""
  | .literal text :: tokens => (boundText? bound tokens).map (text ++ ·)
  | .placeholder _ name :: tokens =>
    match bound name with
    | some value => (boundText? bound tokens).map (value ++ ·)
    | none => none

end Template

namespace TemplateOptions

/-- Anchors match at lines, and a dot matches line ends too. -/
def flags (o : TemplateOptions) : Regex.Flags := { ignoreCase := o.ignoreCase }

/-- The mode for tokens: automatic mode is that of expressions if the literal text is one. -/
def modeFor (o : TemplateOptions) (tokens : List Token) : TemplateMode :=
  match o.mode with
  | .auto =>
    match Regex.Program.compile o.flags (Template.literalText tokens) with
    | .ok _ => .regex
    | .error _ => .literal
  | mode => mode

end TemplateOptions

namespace Synthesis

/-- The tokens in one mode. -/
def inMode (o : TemplateOptions) (bound : Bindings) (tokens : List Token) (mode : TemplateMode) :
    Except Regex.Error Synthesis :=
  let (source, names) := Template.source mode bound tokens
  match Regex.Program.compile o.flags source with
  | .ok program => .ok ⟨.program program, names, mode⟩
  | .error e => .error e

/-- The tokens taken verbatim. Text alone is compared directly when it is too large to compile. -/
def verbatim (o : TemplateOptions) (bound : Bindings) (tokens : List Token) :
    Except Regex.Error Synthesis :=
  match inMode o bound tokens .literal with
  | .ok s => .ok s
  | .error (.malformed fault) => .error (.malformed fault)
  | .error (.tooLarge limit) =>
    match Template.boundText? bound tokens with
    | some text =>
      let (_, names) := Template.source .literal bound tokens
      .ok ⟨.text text o.ignoreCase, names, .literal⟩
    | none => .error (.tooLarge limit)

/-- In automatic mode what cannot be compiled as an expression is taken verbatim. -/
def ofTokens (o : TemplateOptions) (bound : Bindings) (tokens : List Token) :
    Except Regex.Error Synthesis :=
  match o.modeFor tokens with
  | .literal => verbatim o bound tokens
  | mode =>
    match inMode o bound tokens mode with
    | .ok s => .ok s
    | .error e => if o.mode = .auto then verbatim o bound tokens else .error e

/-- A template with the bound placeholders replaced by their values. -/
def ofTemplate (o : TemplateOptions) (bound : Bindings) (template : String) :
    Except PatternError Synthesis :=
  match Template.lex o.delimiters template with
  | .error e => .error e
  | .ok tokens => (ofTokens o bound tokens).mapError .expression

/-- The expression, unless the text is compared directly. -/
def program? (s : Synthesis) : Option Regex.Program :=
  match s.matcher with
  | .program p => some p
  | .text _ _ => none

/-- Equality of whole texts, in lower case where case is ignored. -/
def textMatches (text : String) (ignoreCase : Bool) (source : String) : Bool :=
  if ignoreCase then Unicode.lower text == Unicode.lower source else text == source

def isMatch (s : Synthesis) (source : String) : Bool :=
  match s.matcher with
  | .program p => p.isMatch source
  | .text text ignoreCase => textMatches text ignoreCase source

/-- The names with the texts of their groups in a match, empty for a group that took no part. -/
def capturesOf (names : List String) (m : Regex.Match) : List (String × String) :=
  names.mapIdx fun i name => (name, (m.group? (Template.groupName i)).getD "")

/-- The values of the placeholders, in order of appearance, if the source matches. -/
def captures (s : Synthesis) (source : String) : Option (List (String × String)) :=
  match s.matcher with
  | .program p => (p.find source).map (capturesOf s.names)
  | .text text ignoreCase => if textMatches text ignoreCase source then some [] else none

end Synthesis

end TemplateMatch
