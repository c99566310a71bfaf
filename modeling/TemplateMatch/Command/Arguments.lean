import TemplateMatch.Command.Scan

/-! The commands that arguments ask for. -/

namespace TemplateMatch.Command

inductive Format
  | human
  | json
deriving DecidableEq, Repr

/-- Delimiters given by options. -/
structure DelimiterArgs where
  start : Option String := none
  stop : Option String := none
deriving DecidableEq, Repr

structure CompareArgs where
  expected : String
  actual : Option String
  json : Bool
  strict : Bool
  lenient : Bool
  caseSensitive : Bool
  templateMode : Option TemplateMode
  symbols : Option String
  format : Format
  delimiters : DelimiterArgs
deriving DecidableEq, Repr

structure ResolveArgs where
  template : String
  symbols : String
  quoted : Bool
  delimiters : DelimiterArgs
deriving DecidableEq, Repr

inductive Request
  | compare (args : CompareArgs)
  | resolve (args : ResolveArgs)
deriving DecidableEq, Repr

/-- A command with the level of logging that was asked for. -/
structure Invocation where
  logLevel : Option LogLevel
  request : Request
deriving DecidableEq, Repr

namespace Scan

def delimiters (s : Scan) : DelimiterArgs :=
  ⟨s.value? "placeholder-start", s.value? "placeholder-end"⟩

def logLevel? (s : Scan) : Option LogLevel :=
  (s.value? "log-level").bind fun label => (LogLevel.ofLabel label).toOption

/-- The arguments of a comparison. Exclusive options are found out before missing ones. -/
def compareArgs (s : Scan) : Except UsageError CompareArgs :=
  if (s.has "json" && s.has "text") || (s.has "strict" && s.has "lenient") then
    .error .argumentConflict
  else match s.value? "expected" with
    | none => .error .missingRequired
    | some expected =>
      .ok {
        expected
        actual := s.value? "actual"
        json := s.has "json"
        strict := s.has "strict"
        lenient := s.has "lenient"
        caseSensitive := s.has "case-sensitive"
        templateMode :=
          (s.value? "template-mode").bind fun label => (TemplateMode.ofLabel label).toOption
        symbols := s.value? "symbols"
        format := if s.value? "format" = some "json" then .json else .human
        delimiters := s.delimiters }

def resolveArgs (s : Scan) : Except UsageError ResolveArgs :=
  match s.value? "template", s.value? "symbols" with
  | some template, some symbols =>
    .ok { template, symbols, quoted := s.has "quoted", delimiters := s.delimiters }
  | _, _ => .error .missingRequired

end Scan

/-- Help about a command, which has to be one. -/
def helpAbout : List String → UsageError
  | [] => .displayHelp
  | [name] => if Level.main.subcommands.contains name then .displayHelp else .invalidSubcommand
  | _ => .invalidSubcommand

/-- The arguments of one command, all of them settled. -/
def scanCommand (level : Level) (args : List String) : Except UsageError Scan := do
  let (scan, _) ← Scan.all level {} args
  scan.settle

/-- The request of a subcommand, and the level of logging given with it. -/
def readRequest (name : String) (args : List String) :
    Except UsageError (Request × Option LogLevel) := do
  if name = "compare" then
    let scan ← scanCommand .compare args
    return (.compare (← scan.compareArgs), scan.logLevel?)
  else if name = "resolve" then
    let scan ← scanCommand .resolve args
    return (.resolve (← scan.resolveArgs), scan.logLevel?)
  else .error (helpAbout args)

/-- What the arguments ask for. The level of logging may stand before the command or among its
options, and there it counts. -/
def Invocation.ofArgs (args : List String) : Except UsageError Invocation := do
  match ← Scan.all .main {} args with
  | (scan, none) =>
    let scan ← scan.settle
    .error (if scan.given.isEmpty then .helpOnMissing else .missingSubcommand)
  | (scan, some (name, args)) =>
    let (request, logLevel) ← readRequest name args
    let scan ← scan.settle
    return { logLevel := logLevel <|> scan.logLevel?, request }

end TemplateMatch.Command
