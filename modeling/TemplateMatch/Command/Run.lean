import TemplateMatch.Command.Arguments
import TemplateMatch.Scenario

/-!
Carrying out a command. What it may read is a value here: variables, files and standard input. A
job writes to standard output as it goes, and the outcome holds what stands there at the end.
-/

namespace TemplateMatch.Command

inductive ReadFailure
  | notFound
  | notText
  | other (reason : String)
deriving DecidableEq, Repr

def ReadFailure.message : ReadFailure → String
  | .notFound => "No such file or directory (os error 2)"
  | .notText => "stream did not contain valid UTF-8"
  | .other reason => reason

/-- What a command may read. -/
structure Surroundings where
  /-- The text of a variable, if it is set to one. -/
  setting : String → Option String
  file : String → Except ReadFailure ByteArray
  input : Except ReadFailure ByteArray

/-- The text in UTF-8 that bytes hold. -/
def decode (bytes : ByteArray) : Except ReadFailure String :=
  match String.fromUTF8? bytes with
  | some text => .ok text
  | none => .error .notText

inductive CommandError
  | settings (cause : ConfigError)
  | delimiters (cause : DelimiterError)
  | document (role path : String) (cause : ReadFailure)
  | input (cause : ReadFailure)
  | symbolsMalformed (path : String) (cause : Json.ReadError)
  | symbolsNotObject (path : String)
  | symbolNotScalar (name : String) (value : Json.Value)
  | comparison (cause : CompareError)
  | resolution (template : String) (cause : PatternError)

/-- What went wrong, and then the causes of it one by one. -/
def CommandError.chain : CommandError → List String
  | .settings cause => ["failed to read SCENARIO_MATCH_* settings", cause.message]
  | .delimiters cause =>
      ["invalid placeholder delimiters", (PatternError.delimiters cause).message]
  | .document role path cause =>
      ["failed to read " ++ role ++ " document " ++ path, cause.message]
  | .input cause => ["failed to read actual document from stdin", cause.message]
  | .symbolsMalformed path cause =>
      ["symbols file " ++ path ++ " is not valid JSON", cause.message]
  | .symbolsNotObject path => ["symbols file " ++ path ++ " must hold a JSON object"]
  | .symbolNotScalar name value =>
      ["symbol '" ++ name ++ "' must be a string, number or boolean, found " ++ value.compact]
  | .comparison cause => "comparison could not be carried out" :: cause.chain
  | .resolution template cause =>
      ["failed to resolve template '" ++ template ++ "'", cause.message]

/-- How a command ended that could be carried out. -/
inductive Verdict
  | success
  /-- The documents differ. -/
  | mismatch
deriving DecidableEq, Repr

/-- What a command leaves behind: how it ended, and what stands on standard output. -/
structure Outcome where
  ending : Except CommandError Verdict
  output : String

namespace Outcome

def exitCode (o : Outcome) : Nat :=
  match o.ending with
  | .ok .success => 0
  | .ok .mismatch => 1
  | .error _ => 2

def errors (o : Outcome) : List String :=
  match o.ending with
  | .ok _ => []
  | .error cause => cause.chain

end Outcome

/-! ## Reading -/

def readDocument (s : Surroundings) (role path : String) : Except CommandError String :=
  ((s.file path).bind decode).mapError (.document role path)

/-- The symbols that the fields of an object stand for; each has to be a scalar. -/
def symbolsOf : List (String × Json.Value) → Except CommandError (List (String × String))
  | [] => .ok []
  | (name, value) :: fields =>
    match value.scalarText? with
    | none => .error (.symbolNotScalar name value)
    | some text => (symbolsOf fields).map ((name, text) :: ·)

/-- The symbols in the text of a symbols file. -/
def symbolsOfText (path content : String) : Except CommandError SymbolTable :=
  match Json.Value.read content with
  | .error e => .error (.symbolsMalformed path e)
  | .ok (.object fields) => (symbolsOf fields).map SymbolTable.ofPairs
  | .ok _ => .error (.symbolsNotObject path)

def loadSymbols (s : Surroundings) (path : String) : Except CommandError SymbolTable :=
  match readDocument s "symbols" path with
  | .error e => .error e
  | .ok content => symbolsOfText path content

/-- The pair that options give, if any; one delimiter alone is joined to the other of the
configuration. -/
def DelimiterArgs.pairFor (d : DelimiterArgs) (base : Config) :
    Except CommandError (Option Delimiters) :=
  (Config.pairOver base.delimiters d.start d.stop).mapError .delimiters

namespace CompareArgs

def fieldMode? (a : CompareArgs) : Option FieldMode :=
  if a.strict then some .strict else if a.lenient then some .lenient else none

def contentType (a : CompareArgs) : ContentType := if a.json then .json else .text

/-- The configuration of the comparison: an option counts before a variable. -/
def config (a : CompareArgs) (base : Config) : Except CommandError Config :=
  (a.delimiters.pairFor base).map fun delimiters =>
    base.override {
      fieldMode := a.fieldMode?
      ignoreCase := if a.caseSensitive then some false else none
      delimiters
      templateMode := a.templateMode }

def readActual (a : CompareArgs) (s : Surroundings) : Except CommandError String :=
  match a.actual with
  | some path => readDocument s "actual" path
  | none => (s.input.bind decode).mapError .input

def readSymbols (a : CompareArgs) (s : Surroundings) : Except CommandError SymbolTable :=
  match a.symbols with
  | some path => loadSymbols s path
  | none => .ok .empty

end CompareArgs

/-! ## Reporting -/

/-- A line for each symbol. -/
def symbolLines (symbols : SymbolTable) : String :=
  String.join (symbols.entries.map fun e => "  " ++ e.1 ++ " = " ++ e.2 ++ "\n")

/-- The report of a comparison. -/
def render (format : Format) (c : Comparison) : String :=
  match format with
  | .json => c.toJson.pretty ++ "\n"
  | .human =>
    c.display ++ "\n" ++
      match c with
      | .passed captured => symbolLines captured
      | .failed _ => ""

/-! ## Commands -/

/-- A part of a command. What it writes to standard output stays there if the command fails later. -/
abbrev Job (α : Type) := ExceptT CommandError (StateM String) α

namespace Job

/-- What a job comes to, and what stands on standard output after it. -/
def after {α : Type} (written : String) (job : Job α) : Except CommandError α × String :=
  (job.run.run written).run

def write (text : String) : Job Unit := modify fun written => written ++ text

end Job

def compareJob (s : Surroundings) (base : Config) (a : CompareArgs) : Job Verdict := do
  let config ← a.config base
  let expected ← readDocument s "expected" a.expected
  let actual ← a.readActual s
  let symbols ← a.readSymbols s
  let scenario := (Scenario.start config).bindAll symbols.entries
  let (judgement, _) := scenario.compare a.contentType (.text expected) (.text actual)
  let comparison ← judgement.mapError CommandError.comparison
  Job.write (render a.format comparison)
  return if comparison.isMatch then .success else .mismatch

def resolveJob (s : Surroundings) (base : Config) (a : ResolveArgs) : Job Verdict := do
  let delimiters ← a.delimiters.pairFor base
  let symbols ← loadSymbols s a.symbols
  let scenario := (Scenario.start (base.override { delimiters })).bindAll symbols.entries
  let substitution : Substitution := if a.quoted then .quoted else .plain
  let text ← (scenario.resolve substitution a.template).mapError
    (CommandError.resolution a.template)
  Job.write (text ++ "\n")
  return .success

namespace Request

/-- What a request asks for. The variables are read first, whatever the options say. -/
def job (s : Surroundings) (r : Request) : Job Verdict := do
  let base ← (Config.ofVariables s.setting).mapError CommandError.settings
  match r with
  | .compare a => compareJob s base a
  | .resolve a => resolveJob s base a

/-- Carries out a request. -/
def run (s : Surroundings) (r : Request) : Outcome :=
  let (ending, output) := (r.job s).after ""
  { ending, output }

/-- The files that a request names. -/
def paths : Request → List String
  | .compare a => a.expected :: (a.actual.toList ++ a.symbols.toList)
  | .resolve a => [a.symbols]

/-- Without a file the actual document is standard input. -/
def readsInput : Request → Bool
  | .compare a => a.actual.isNone
  | .resolve _ => false

end Request

end TemplateMatch.Command
